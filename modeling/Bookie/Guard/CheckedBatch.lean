/-
The row count of a checked batch. The driver is told which elements must change one
row; the guard counts one row for the statements with these numbers in the joined
text. The numberings differ if an element holds no statement or several.
-/

import Bookie.Guard.Cooperative
import Bookie.Guard.Logic
import Bookie.Policy.BlastRadius
import Mathlib.Algebra.Order.BigOperators.Group.List

namespace Bookie.Guard

open Bookie.Core Policy Text List Nat Async Async.Future PolicyGuard

/-! ### What a batch affects -/

/-- The rows each statement of each element affects, in a run that the driver does not abort. -/
structure BatchRun (elements : List (List Mutation)) (expectOne : List Nat)
    (rows : List (List Nat)) : Prop where
  affects : Forall₂ (Forall₂ (fun statement count => statement.Affects count))
    elements rows
  single : ∀ element ∈ expectOne, ∀ counts, rows[element]? = some counts → counts.sum = 1

def affectedRows (rows : List (List Nat)) : Nat := (rows.map sum).sum

/-- What `analyze_statement` takes from the parser's answer on a text. A text that is not read,
or has no statement, is unparseable. -/
def AnalyzedAs (driverId : String) (analysis : StatementAnalysis) :
    Except String (List Mutation) → Prop
  | .ok (statement :: rest) =>
    analysis.blastRadius = (analyzeBlastRadius (statement :: rest) driverId).1 ∧
      analysis.knownStatementRows = (analyzeBlastRadius (statement :: rest) driverId).2
  | _ =>
    (∃ message, analysis.facts = .unparseable message) ∧ analysis.blastRadius = none ∧
      analysis.knownStatementRows = []

/-- The bound that comes with a checked batch; a list of no elements checks nothing. -/
def checkedRows (analysis : StatementAnalysis) (expectOne : List Nat) : Option Nat :=
  if expectOne.isEmpty then none else enforcedBatchRows analysis expectOne

/-- Whatever the driver answers to the count query of a text is no less than the rows. -/
def CountsAtLeast (guard : PolicyGuard) (analysis : StatementAnalysis) (rows : Nat) : Prop :=
  ∀ rewrite step control (result : QueryResult) answer,
    analysis.blastRadius = some (.countQuery rewrite) →
    guard.outside.call step (.query .connection .count rewrite.countSql none (some control)) =
      .returned result → result.rowCount = some answer → rows ≤ answer

/-- The estimate is no less than what any run affects. If the parser reads the joined text, it
reads the statements of the elements. -/
def CountedEnough (driverId : String) (elements : List (List Mutation)) (expectOne : List Nat) :
    Prop :=
  ∀ {σ : Type} (guard : PolicyGuard) (batch : List (String × List Value))
    (parsed : Except String (List Mutation)) (rows : List (List Nat))
    (control : Option OperationControl) (world : World σ) (estimate : Nat),
    let analysis := guard.analyzeStatement (batchText batch)
    guard.ctx.driverId = driverId → batch.length = elements.length →
    AnalyzedAs driverId analysis parsed →
    (∀ statements, parsed = .ok statements → statements = elements.flatten) →
    BatchRun elements expectOne rows → CountsAtLeast guard analysis (affectedRows rows) →
    (guard.estimateRows analysis (checkedRows analysis expectOne) control none world).exit =
      .done (some estimate) → affectedRows rows ≤ estimate

def Mutation.WellFormed : Mutation → Prop
  | .insert _ (.values tuples) => 0 < tuples
  | _ => True

/-! ### Where the statements stand -/

def firstStatement (sizes : List Nat) (element : Nat) : Nat := (sizes.take element).sum

/-- No statement of an element outside the list has a number in it. -/
def Covered (sizes expectOne : List Nat) : Prop :=
  ∀ element size, sizes[element]? = some size → element ∉ expectOne →
    ∀ place < size, firstStatement sizes element + place ∉ expectOne

/-- The statements of an element whose numbers are outside the list. -/
def uncoveredPlaces (expectOne : List Nat) (first size : Nat) : List Nat :=
  (range size).filter (fun place => !expectOne.contains (first + place))

/-- An element in the list has no statement, or two that are counted by their own rows: the
driver aborts, or there is no estimate. -/
def Unmeetable (sizes expectOne : List Nat) : Prop :=
  ∃ element ∈ expectOne, ∃ size, sizes[element]? = some size ∧
    (size = 0 ∨ 2 ≤ (uncoveredPlaces expectOne (firstStatement sizes element) size).length)

/-! ### The count, statement by statement -/

def countedFrom (expectOne : List Nat) : Nat → List (Option Nat) → Option Nat
  | _, [] => some 0
  | index, rows :: rest =>
    match (if expectOne.contains index then some 1 else rows),
      countedFrom expectOne (index + 1) rest with
    | some here, some later => some (here + later)
    | _, _ => none

private theorem counted_zipIdx (expectOne : List Nat) (known : List (Option Nat)) (index : Nat) :
    ((known.zipIdx index).mapM fun entry =>
      if expectOne.contains entry.2 then some 1 else entry.1).map sum =
        countedFrom expectOne index known := by
  induction known generalizing index with
  | nil => rfl
  | cons rows rest ih =>
    rw [countedFrom, ← ih (index + 1), zipIdx_cons, mapM_cons]
    cases own : (if expectOne.contains index then some 1 else rows) with
    | none => simp
    | some here =>
    cases (mapM (fun entry => if expectOne.contains entry.2 then some 1 else entry.1)
      (rest.zipIdx (index + 1))) with
    | none => rfl
    | some later => rfl

private theorem enforcedBatchRows_eq (analysis : StatementAnalysis) (expectOne : List Nat) :
    PolicyGuard.enforcedBatchRows analysis expectOne =
      countedFrom expectOne 0 analysis.knownStatementRows :=
  counted_zipIdx expectOne analysis.knownStatementRows 0

private theorem countedFrom_cons {expectOne : List Nat} {index total : Nat} {rows : Option Nat}
    {rest : List (Option Nat)} (counted : countedFrom expectOne index (rows :: rest) = some total) :
    ∃ here later, (if expectOne.contains index then some 1 else rows) = some here ∧
      countedFrom expectOne (index + 1) rest = some later ∧ total = here + later := by
  rw [countedFrom] at counted
  cases own : (if expectOne.contains index then some 1 else rows) with
  | none =>
    rw [own] at counted
    cases counted
  | some here =>
  cases behind : countedFrom expectOne (index + 1) rest with
  | none =>
    rw [own, behind] at counted
    cases counted
  | some later =>
    rw [own, behind] at counted
    cases counted
    exact ⟨here, later, rfl, rfl, rfl⟩

private theorem countedFrom_append {expectOne : List Nat} {index total : Nat}
    {first second : List (Option Nat)}
    (counted : countedFrom expectOne index (first ++ second) = some total) :
    ∃ here later, countedFrom expectOne index first = some here ∧
      countedFrom expectOne (index + first.length) second = some later ∧ total = here + later := by
  induction first generalizing index total with
  | nil => exact ⟨0, total, rfl, counted, (zero_add total).symm⟩
  | cons rows rest ih =>
    obtain ⟨here, behind, own, restCounted, rfl⟩ := countedFrom_cons counted
    obtain ⟨mid, last, midCounted, lastCounted, rfl⟩ := ih restCounted
    refine ⟨here + mid, last, ?_, ?_, ?_⟩
    · rw [countedFrom, own, midCounted]
    · rw [length_cons, ← add_assoc, add_right_comm]
      exact lastCounted
    · exact (add_assoc here mid last).symm

/-! ### The estimate is enough -/

section

variable {driverId : String} {expectOne : List Nat}

private def knownOf (driverId : String) (statements : List Mutation) : List (Option Nat) :=
  statements.map (fun statement => knownRows (rewriteForStatement driverId statement))

variable {statements : List Mutation} {counts : List Nat} {first total : Nat}
  {elements : List (List Mutation)}

private theorem known_positive {statement : Mutation} {known : Nat}
    (wellFormed : Mutation.WellFormed statement)
    (rewritten : knownRows (rewriteForStatement driverId statement) = some known) : 0 < known := by
  cases statement with
  | update | delete | other => cases rewritten
  | insert target body =>
    cases target <;> cases body <;> cases rewritten
    all_goals first | exact one_pos | exact wellFormed

private theorem uncoveredPlaces_succ (first size : Nat) :
    (uncoveredPlaces expectOne first (size + 1)).length =
      (if expectOne.contains first then 0 else 1) +
        (uncoveredPlaces expectOne (first + 1) size).length := by
  have shifted : ((fun place => !expectOne.contains (first + place)) ∘ succ) =
      (fun place => !expectOne.contains (first + 1 + place)) := by
    funext place
    rw [Function.comp_apply, succ_eq_add_one, add_comm place 1, ← add_assoc]
  rw [uncoveredPlaces, range_succ_eq_map, filter_cons, filter_map, shifted, uncoveredPlaces]
  cases expectOne.contains first with
  | true => simp
  | false =>
    simp
    omega

section

variable (affects : Forall₂ (fun statement count => statement.Affects count) statements counts)
include affects

/-- A statement in the list is counted as one row, any other by the rows it affects. -/
private theorem counted_places
    (counted : countedFrom expectOne first (knownOf driverId statements) = some total) :
    ∃ own covered, total = own + covered ∧
      covered + (uncoveredPlaces expectOne first statements.length).length = statements.length ∧
      own ≤ counts.sum ∧ (covered = 0 → own = counts.sum) ∧
      ((∀ statement ∈ statements, Mutation.WellFormed statement) →
        (uncoveredPlaces expectOne first statements.length).length ≤ own) := by
  induction affects generalizing first total with
  | nil =>
    cases counted
    exact ⟨0, 0, rfl, rfl, le_refl _, fun _ => rfl, fun _ => le_refl _⟩
  | @cons statement count statements counts own _ ih =>
    obtain ⟨here, later, known, behind, rfl⟩ := countedFrom_cons counted
    obtain ⟨rest, covered, rfl, places, least, same, many⟩ := ih behind
    rw [length_cons, uncoveredPlaces_succ, sum_cons]
    by_cases listed : expectOne.contains first = true
    · rw [if_pos listed] at known ⊢
      cases known
      refine ⟨rest, covered + 1, by omega, by omega, by omega, nofun, fun wellFormed => ?_⟩
      have bound := many (forall_mem_of_forall_mem_cons wellFormed)
      omega
    rw [if_neg listed] at known ⊢
    obtain rfl := affects_known own known
    refine ⟨count + rest, covered, by omega, by omega, by omega, fun none => ?_,
      fun wellFormed => ?_⟩
    · rw [same none]
    · have positive := known_positive (wellFormed statement mem_cons_self) known
      have bound := many (forall_mem_of_forall_mem_cons wellFormed)
      omega

private theorem affected_of_outside
    (outside : ∀ place < statements.length, first + place ∉ expectOne)
    (counted : countedFrom expectOne first (knownOf driverId statements) = some total) :
    counts.sum = total := by
  obtain ⟨own, covered, rfl, places, -, same, -⟩ := counted_places affects counted
  have all : uncoveredPlaces expectOne first statements.length = range statements.length :=
    filter_eq_self.mpr fun place member => by simpa using outside place (mem_range.mp member)
  rw [all, length_range, add_eq_right] at places
  rw [places, same places]
  rfl

end

@[simp] theorem firstStatement_succ (size : Nat) (rest : List Nat) (element : Nat) :
    firstStatement (size :: rest) (element + 1) = size + firstStatement rest element := by
  rw [firstStatement, take_succ_cons, sum_cons, firstStatement]

private theorem knownOf_append (first second : List Mutation) :
    knownOf driverId (first ++ second) = knownOf driverId first ++ knownOf driverId second :=
  map_append

private theorem knownOf_length (statements : List Mutation) :
    (knownOf driverId statements).length = statements.length :=
  length_map _

/-- The elements from number `base` on, whose first statement has number `first`. -/
private theorem affected_le_counted {elements : List (List Mutation)} {rows : List (List Nat)}
    {base first total : Nat}
    (affects : Forall₂ (Forall₂ (fun statement count => statement.Affects count))
      elements rows)
    (covered : ∀ element size, (elements.map length)[element]? = some size →
      base + element ∉ expectOne → ∀ place < size,
        first + firstStatement (elements.map length) element + place ∉ expectOne)
    (single : ∀ element, base + element ∈ expectOne → ∀ counts, rows[element]? = some counts →
      counts.sum = 1)
    (counted : countedFrom expectOne first (knownOf driverId elements.flatten) = some total) :
    affectedRows rows ≤ total := by
  induction affects generalizing base first total with
  | nil => exact zero_le total
  | @cons statements counts elements rows own _ ih =>
    rw [flatten_cons, knownOf_append] at counted
    obtain ⟨here, later, ownCounted, restCounted, rfl⟩ := countedFrom_append counted
    rw [knownOf_length] at restCounted
    have rest : affectedRows rows ≤ later := by
      refine @ih (base + 1) (first + statements.length) later ?_ ?_ restCounted
      · intro element size sized unlisted place within
        have outside := covered (element + 1) size sized
          (by rwa [add_comm element 1, ← add_assoc]) place within
        rwa [map_cons, firstStatement_succ, ← add_assoc first] at outside
      · intro element listed counts found
        exact single (element + 1) (by rwa [add_comm element 1, ← add_assoc]) counts found
    have head : counts.sum ≤ here := by
      by_cases listed : base ∈ expectOne
      · have one := single 0 listed counts rfl
        obtain ⟨known, covered, rfl, -, -, same, -⟩ := counted_places own ownCounted
        rcases Nat.eq_zero_or_pos covered with none | some
        · exact le_of_eq (by rw [same none, none, add_zero])
        · omega
      · have outside := covered 0 statements.length rfl listed
        exact le_of_eq (affected_of_outside own outside ownCounted)
    exact Nat.add_le_add head rest

/-! ### Batches the driver always aborts -/

private theorem forall₂_getElem? {α β : Type} {related : α → β → Prop} {left : List α}
    {right : List β} (all : Forall₂ related left right) {index : Nat} {item : α}
    (found : left[index]? = some item) :
    ∃ other, right[index]? = some other ∧ related item other := by
  obtain ⟨same, each⟩ := forall₂_iff_get.mp all
  obtain ⟨within, rfl⟩ := List.getElem?_eq_some_iff.mp found
  exact ⟨_, getElem?_eq_getElem (same ▸ within), each index within (same ▸ within)⟩

private theorem countedFrom_element {element : Nat} (found : elements[element]? = some statements)
    (counted : countedFrom expectOne first (knownOf driverId elements.flatten) = some total) :
    ∃ here, countedFrom expectOne (first + firstStatement (elements.map length) element)
      (knownOf driverId statements) = some here := by
  induction elements generalizing element first total with
  | nil => cases found
  | cons head rest ih =>
    rw [flatten_cons, knownOf_append] at counted
    obtain ⟨here, later, ownCounted, restCounted, rfl⟩ := countedFrom_append counted
    cases element with
    | zero =>
      cases found
      exact ⟨here, ownCounted⟩
    | succ element =>
    rw [knownOf_length] at restCounted
    obtain ⟨there, thereCounted⟩ := ih found restCounted
    rw [map_cons, firstStatement_succ, ← add_assoc]
    exact ⟨there, thereCounted⟩

private theorem not_run_of_unmeetable {rows : List (List Nat)}
    (unmeetable : Unmeetable (elements.map length) expectOne)
    (wellFormed : ∀ element ∈ elements, ∀ statement ∈ element, Mutation.WellFormed statement)
    (counted : countedFrom expectOne 0 (knownOf driverId elements.flatten) = some total) :
    ¬ BatchRun elements expectOne rows := by
  intro run
  obtain ⟨element, listed, size, sized, bad⟩ := unmeetable
  rw [getElem?_map, Option.map_eq_some_iff] at sized
  obtain ⟨statements, found, rfl⟩ := sized
  obtain ⟨counts, ran, affects⟩ := forall₂_getElem? run.affects found
  have one := run.single element listed counts ran
  rcases bad with empty | several
  · rw [length_eq_zero_iff] at empty
    subst empty
    cases affects
    cases one
  obtain ⟨here, own⟩ := countedFrom_element found counted
  rw [zero_add] at own
  obtain ⟨known, _, -, -, least, -, many⟩ := counted_places affects own
  have bound := many (wellFormed statements (mem_of_getElem? found))
  omega

/-! ### Batches whose estimate falls short -/

/-- A guard of a production connection whose front end reads every text as these statements. -/
def readingGuard (driverId : String) (statements : List Mutation) : PolicyGuard :=
  guardOver { frontEndKnowing [] with
    classify := fun _ _ => { insertUser.facts with isMultiStatement := true }
    blastRadius := fun _ _ => (analyzeBlastRadius statements driverId).1
    knownStatementRows := fun _ _ => (analyzeBlastRadius statements driverId).2 }
    .cooperative driverId .prod .humanGui

private theorem readingGuard_estimates (driverId text : String) (statements : List Mutation) :
    (readingGuard driverId statements).needsEstimate
      ((readingGuard driverId statements).analyzeStatement text).facts = true := by
  have writes : ({ insertUser.facts with isMultiStatement := true } :
      StatementFacts).containsMutatingDml = true := by decide
  have harmless : insertUser.facts.effects.contains .admin = false ∧
      insertUser.facts.effects.contains .unknown = false := by decide
  change (({ insertUser.facts with isMultiStatement := true } :
      StatementFacts).containsMutatingDml && true && !insertUser.facts.effects.contains .admin &&
    !insertUser.facts.effects.contains .unknown && true) = true
  rw [writes, harmless.1, harmless.2]
  rfl

private theorem readingGuard_analyzed {statements : List Mutation} (some : statements ≠ [])
    (driverId text : String) :
    AnalyzedAs driverId ((readingGuard driverId statements).analyzeStatement text)
      (.ok statements) := by
  cases statements with
  | nil => exact absurd rfl some
  | cons statement rest => exact ⟨rfl, rfl⟩

private def anyUpdate : Mutation := .update ⟨"t", ["t"]⟩ [] none

private def oneTuple : Mutation := .insert (.tableName "t") (.values 1)

/-- An UPDATE at every number of the list, a one-tuple INSERT elsewhere. -/
private def planted (expectOne : List Nat) : Nat → Nat → List Mutation
  | _, 0 => []
  | first, size + 1 =>
    (if expectOne.contains first then anyUpdate else oneTuple) :: planted expectOne (first + 1) size

private def plantedBatch (expectOne : List Nat) : Nat → List Nat → List (List Mutation)
  | _, [] => []
  | first, size :: rest =>
    planted expectOne first size :: plantedBatch expectOne (first + size) rest

private theorem planted_length (first size : Nat) :
    (planted expectOne first size).length = size := by
  induction size generalizing first with
  | zero => rfl
  | succ size ih => rw [planted, length_cons, ih]

private theorem plantedBatch_sizes (first : Nat) (sizes : List Nat) :
    (plantedBatch expectOne first sizes).map length = sizes := by
  induction sizes generalizing first with
  | nil => rfl
  | cons size rest ih => rw [plantedBatch, map_cons, planted_length, ih]

private theorem planted_wellFormed (first size : Nat) :
    ∀ statement ∈ planted expectOne first size, Mutation.WellFormed statement := by
  induction size generalizing first with
  | zero =>
    intro statement member
    cases member
  | succ size ih =>
    intro statement member
    rcases mem_cons.mp member with rfl | later
    · split
      · exact trivial
      · exact one_pos
    · exact ih (first + 1) statement later

private theorem plantedBatch_wellFormed (first : Nat) (sizes : List Nat) :
    ∀ element ∈ plantedBatch expectOne first sizes, ∀ statement ∈ element,
      Mutation.WellFormed statement := by
  induction sizes generalizing first with
  | nil =>
    intro element member
    cases member
  | cons size rest ih =>
    intro element member
    rcases mem_cons.mp member with rfl | later
    · exact planted_wellFormed first size
    · exact ih (first + size) element later

private theorem planted_add (first size more : Nat) :
    planted expectOne first (size + more) =
      planted expectOne first size ++ planted expectOne (first + size) more := by
  induction size generalizing first with
  | zero => rw [zero_add, planted, nil_append, add_zero]
  | succ size ih =>
    rw [add_right_comm, planted, ih, planted, cons_append, add_assoc first, add_comm 1 size]

private theorem plantedBatch_flatten (first : Nat) (sizes : List Nat) :
    (plantedBatch expectOne first sizes).flatten = planted expectOne first sizes.sum := by
  induction sizes generalizing first with
  | nil => rfl
  | cons size rest ih => rw [plantedBatch, flatten_cons, ih, sum_cons, planted_add]

private theorem planted_counted (first size : Nat) :
    countedFrom expectOne first (knownOf driverId (planted expectOne first size)) = some size := by
  induction size generalizing first with
  | zero => rfl
  | succ size ih =>
    have own : (if expectOne.contains first then some 1 else
        knownRows (rewriteForStatement driverId
          (if expectOne.contains first then anyUpdate else oneTuple))) = some 1 := by
      cases expectOne.contains first with
      | true | false => rfl
    rw [planted, knownOf, map_cons, countedFrom, own]
    have rest := ih (first + 1)
    rw [knownOf] at rest
    rw [rest, add_comm]

/-- An UPDATE among the statements affects as many rows as wanted. -/
private theorem planted_affects (extra first size : Nat) :
    ∃ counts, Forall₂ (fun statement count => Mutation.Affects count statement)
      (planted expectOne first size) counts ∧
        ((extra = 0 ∨ ∃ place < size, first + place ∈ expectOne) →
          counts.sum = extra + (uncoveredPlaces expectOne first size).length) := by
  induction size generalizing first extra with
  | zero =>
    refine ⟨[], .nil, ?_⟩
    rintro (rfl | ⟨place, within, -⟩)
    · rfl
    · cases within
  | succ size ih =>
    rw [planted, uncoveredPlaces_succ]
    by_cases listed : expectOne.contains first = true
    · obtain ⟨counts, affects, total⟩ := ih 0 (first + 1)
      rw [if_pos listed, if_pos listed]
      exact ⟨extra :: counts, .cons trivial affects, fun _ => by rw [sum_cons, total (.inl rfl)]⟩
    obtain ⟨counts, affects, total⟩ := ih extra (first + 1)
    rw [if_neg listed, if_neg listed]
    refine ⟨1 :: counts, .cons rfl affects, fun free => ?_⟩
    rw [sum_cons, total (free.imp_right ?_), add_left_comm]
    rintro ⟨place, within, member⟩
    cases place with
    | zero => exact absurd (by simpa using member) listed
    | succ place =>
      exact ⟨place, lt_of_succ_lt_succ within, by rwa [add_assoc, add_comm 1 place]⟩

private theorem planted_affects_one {size : Nat} (inhabited : size ≠ 0)
    (few : (uncoveredPlaces expectOne first size).length < 2) :
    ∃ counts, Forall₂ (fun statement count => Mutation.Affects count statement)
      (planted expectOne first size) counts ∧ counts.sum = 1 := by
  have free : 1 - (uncoveredPlaces expectOne first size).length = 0 ∨
      ∃ place < size, first + place ∈ expectOne := by
    by_cases listed : first ∈ expectOne
    · exact .inr ⟨0, Nat.pos_of_ne_zero inhabited, listed⟩
    obtain ⟨size, rfl⟩ := exists_eq_succ_of_ne_zero inhabited
    rw [uncoveredPlaces_succ, if_neg (by simpa using listed)]
    exact .inl (by omega)
  obtain ⟨counts, affects, total⟩ := planted_affects _ first size
  exact ⟨counts, affects, by rw [total free]; omega⟩

private theorem plantedBatch_run (free base first : Nat) (sizes : List Nat)
    (meetable : ∀ element size, sizes[element]? = some size → base + element ∈ expectOne →
      size ≠ 0 ∧
        (uncoveredPlaces expectOne (first + firstStatement sizes element) size).length < 2) :
    ∃ rows, Forall₂ (Forall₂ (fun statement count => Mutation.Affects count statement))
        (plantedBatch expectOne first sizes) rows ∧
      (∀ element, base + element ∈ expectOne → ∀ counts, rows[element]? = some counts →
        counts.sum = 1) ∧
      ∀ element size place, sizes[element]? = some size → base + element ∉ expectOne →
        place < size → first + firstStatement sizes element + place ∈ expectOne →
          free ≤ affectedRows rows := by
  induction sizes generalizing base first with
  | nil =>
    refine ⟨[], Forall₂.nil, ?_, ?_⟩
    · intro element _ counts found
      cases found
    · intro element size place sized
      cases sized
  | cons size rest ih =>
    obtain ⟨rows, affects, single, many⟩ := ih (base + 1) (first + size) (by
      intro element size sized listed
      have fine := meetable (element + 1) size sized
        (by rwa [add_comm element 1, ← add_assoc])
      rwa [firstStatement_succ, ← add_assoc] at fine)
    -- the element's own counts: one row in the list, as many as wanted outside
    obtain ⟨counts, own, one, much⟩ : ∃ counts,
        Forall₂ (fun statement count => Mutation.Affects count statement)
          (planted expectOne first size) counts ∧
        (base ∈ expectOne → counts.sum = 1) ∧
        (base ∉ expectOne → ∀ place < size, first + place ∈ expectOne → free ≤ counts.sum) := by
      by_cases listed : base ∈ expectOne
      · obtain ⟨inhabited, few⟩ := meetable 0 size rfl listed
        obtain ⟨counts, own, one⟩ := planted_affects_one inhabited few
        exact ⟨counts, own, fun _ => one, fun unlisted => absurd listed unlisted⟩
      obtain ⟨counts, own, total⟩ := @planted_affects expectOne free first size
      refine ⟨counts, own, fun member => absurd member listed, fun _ place within member => ?_⟩
      rw [total (.inr ⟨place, within, member⟩)]
      exact le_add_right _ _
    refine ⟨counts :: rows, Forall₂.cons own affects, ?_, ?_⟩
    · intro element listed found present
      cases element with
      | zero =>
        cases present
        exact one listed
      | succ element =>
        exact single element (by rwa [add_assoc, add_comm 1 element]) found present
    intro element found place sized unlisted within member
    cases element with
    | zero =>
      cases sized
      exact le_trans (much unlisted place within member) (le_add_right _ _)
    | succ element =>
    rw [firstStatement_succ, ← add_assoc] at member
    have later := many element found place sized
      (by rwa [add_assoc, add_comm 1 element]) within member
    exact le_trans later (le_add_left _ _)

/-! ### When the estimate is enough -/

private theorem countedFrom_of_total {known : List (Option Nat)}
    (summed : totalRows known = some total) (index : Nat) :
    countedFrom [] index known = some total := by
  rw [totalRows] at summed
  split at summed
  case isFalse => cases summed
  case isTrue all =>
    cases summed
    induction known generalizing index with
    | nil => rfl
    | cons rows rest ih =>
      rw [all_cons, Bool.and_eq_true, Option.isSome_iff_exists] at all
      obtain ⟨⟨here, rfl⟩, behind⟩ := all
      rw [countedFrom, ih _ behind]
      rfl

private theorem affected_of_known
    (affects : Forall₂ (fun statement count => statement.Affects count) statements counts)
    (known : (analyzeBlastRadius statements driverId).1 = some (.known total)) :
    counts.sum = total := by
  match statements, affects with
  | [], _ => cases known
  | [statement], .cons own .nil =>
    have rewritten : knownRows (rewriteForStatement driverId statement) = some total := by
      rw [show rewriteForStatement driverId statement = some (.known total) from known]
      rfl
    exact affects_known own rewritten
  | one :: two :: rest, affects =>
    have mapped : (totalRows (knownOf driverId (one :: two :: rest))).map
      BlastRadiusRewrite.known = some (.known total) := known
    rw [Option.map_eq_some_iff] at mapped
    obtain ⟨rows, summed, same⟩ := mapped
    cases same
    exact affected_of_outside affects (fun _ _ => not_mem_nil) (countedFrom_of_total summed 0)

section Estimate

variable {σ : Type} {guard : PolicyGuard} {analysis : StatementAnalysis}
  {control : Option OperationControl} {world : World σ} {estimate : Nat}

/-- Where an estimate comes from that is made for a text. -/
def EstimatedFrom (guard : PolicyGuard) (analysis : StatementAnalysis) (estimate : Nat) : Prop :=
  analysis.blastRadius = some (.known estimate) ∨ ∃ rewrite step control, ∃ result : QueryResult,
    analysis.blastRadius = some (.countQuery rewrite) ∧
    guard.outside.call step (.query .connection .count rewrite.countSql none (some control)) =
      .returned result ∧ result.rowCount = some estimate

private theorem estimateBlastRadius_from :
    Spec (fun _ _ => True) (guard.estimateBlastRadius analysis control none : Guarded σ _)
      (fun answer _ _ => ∀ estimate, answer = some estimate →
        EstimatedFrom guard analysis estimate)
      (fun _ _ _ => True) fun _ _ => True := by
  unfold estimateBlastRadius
  cases radius : analysis.blastRadius with
  | none => exact spec_pure fun _ _ _ => nofun
  | some rewrite =>
  cases rewrite with
  | known rows =>
    refine spec_pure fun _ _ _ estimate same => .inl ?_
    cases same
    exact radius
  | countQuery rewrite =>
    apply Spec.bind spec_anything
    intro operation
    apply Spec.bind spec_anything
    intro recorded
    apply Spec.bind spec_anything
    intro _
    apply Spec.bind spec_anything
    intro control
    let Answered (value : QueryResult) : Prop := ∃ step, guard.outside.call step
      (.query .connection .count rewrite.countSql none (some control)) = .returned value
    have dispatched : Spec (fun _ _ => True) (guard.countQuery none rewrite.countSql control :
        Guarded σ QueryResult) (fun value _ _ => Answered value) (fun _ _ _ => True)
        fun _ _ => True := by
      apply dispatch_at
      intro past world audit _ _
      cases reply : guard.outside.call world.step (countCall none rewrite.countSql control) with
      | returned value => exact ⟨world.step, reply⟩
      | failed | panicked | dropped => trivial
    apply Spec.bind (caught_result dispatched fun _ _ _ _ => trivial)
    intro result
    cases result with
    | error error =>
      apply Spec.bind spec_anything
      intro recorded
      apply Spec.bind spec_anything
      intro _
      exact spec_pure fun _ _ _ => nofun
    | ok value =>
    refine Spec.assuming _ (fun _ _ answered => answered) fun ⟨step, returned⟩ => ?_
    apply Spec.bind spec_anything
    intro recorded
    apply Spec.bind spec_anything
    intro _
    exact spec_pure fun _ _ _ estimate counted =>
      .inr ⟨rewrite, step, control, value, radius, returned, counted⟩

private theorem estimateRows_from {enforced : Option Nat}
    (done : (guard.estimateRows analysis enforced control none world).exit =
      .done (some estimate)) :
    guard.needsEstimate analysis.facts = true ∧
      (enforced = some estimate ∨ enforced = none ∧ EstimatedFrom guard analysis estimate) := by
  unfold estimateRows at done
  split at done
  · rename_i needed
    refine ⟨needed, ?_⟩
    cases enforced with
    | some rows =>
      cases done
      exact .inl rfl
    | none =>
      have ends := @estimateBlastRadius_from σ guard analysis control [] world trivial
      dsimp only at done
      rw [done] at ends
      exact .inr ⟨rfl, ends estimate rfl⟩
  · cases done

private theorem estimateRows_enforced {rows : Nat}
    (needed : guard.needsEstimate analysis.facts = true) :
    (guard.estimateRows analysis (some rows) control none world).exit = .done (some rows) := by
  unfold estimateRows
  rw [if_pos needed]
  rfl

/-- The gate is closed for a text that cannot be parsed. -/
private theorem needsEstimate_unparseable (message : String) :
    guard.needsEstimate (.unparseable message) = false := by
  have unwritten : (StatementFacts.unparseable message).containsMutatingDml = false := by
    change Effects.contains .unknown .writesRows = false
    decide
  unfold needsEstimate
  rw [unwritten]
  rfl

end Estimate

private theorem counted_enough_of_enforced
    (enforced : ∀ rows total, BatchRun elements expectOne rows →
      countedFrom expectOne 0 (knownOf driverId elements.flatten) = some total →
        affectedRows rows ≤ total) :
    CountedEnough driverId elements expectOne := by
  intro σ guard batch parsed rows control world estimate analysis isDriver _ analyzed reads run
    counts done
  obtain ⟨needed, source⟩ := estimateRows_from done
  match parsed, analyzed, reads with
  | .error _, ⟨⟨message, unread⟩, _⟩, _ | .ok [], ⟨⟨message, unread⟩, _⟩, _ =>
    rw [unread, needsEstimate_unparseable] at needed
    cases needed
  | .ok (statement :: rest), ⟨radius, known⟩, reads =>
  have isText := reads _ rfl
  rw [isText] at radius known
  rw [analyzeBlastRadius_rows] at known
  rcases source with isEnforced |
    ⟨_, estimated | ⟨rewrite, step, control, result, counted, returned, answer⟩⟩
  · unfold checkedRows at isEnforced
    split at isEnforced
    · cases isEnforced
    · rw [enforcedBatchRows_eq, known] at isEnforced
      exact enforced rows estimate run isEnforced
  · rw [radius] at estimated
    rw [affectedRows, ← sum_flatten]
    exact le_of_eq (affected_of_known (rel_flatten run.affects) estimated)
  · exact counts rewrite step control result estimate counted returned answer

/-- The guard counts each planted statement as one row. -/
private theorem planted_undercounted {sizes : List Nat} (listed : expectOne.isEmpty = false)
    (nonempty : sizes.sum ≠ 0) (run : BatchRun (plantedBatch expectOne 0 sizes) expectOne rows)
    (short : sizes.sum < affectedRows rows) :
    ¬ CountedEnough driverId (plantedBatch expectOne 0 sizes) expectOne := by
  intro enough
  let elements := plantedBatch expectOne 0 sizes
  let guard := readingGuard driverId elements.flatten
  let batch : List (String × List Value) := elements.map (fun _ => ("", []))
  have isPlanted : elements.flatten = planted expectOne 0 sizes.sum := plantedBatch_flatten 0 sizes
  have inhabited : elements.flatten ≠ [] := by
    rw [isPlanted]
    obtain ⟨total, isTotal⟩ := exists_eq_succ_of_ne_zero nonempty
    rw [isTotal]
    exact cons_ne_nil _ _
  let analysis := guard.analyzeStatement (batchText batch)
  have known : analysis.knownStatementRows = knownOf driverId (planted expectOne 0 sizes.sum) :=
    (analyzeBlastRadius_rows _ _).trans (congrArg _ isPlanted)
  have bound : checkedRows analysis expectOne = some sizes.sum := by
    rw [checkedRows, listed, enforcedBatchRows_eq, known, planted_counted]
    rfl
  have estimated : (guard.estimateRows analysis (checkedRows analysis expectOne) none none
      (World.mk .new 0 ())).exit = .done (some sizes.sum) := by
    rw [bound]
    exact estimateRows_enforced (readingGuard_estimates driverId _ _)
  have bounded := enough guard batch (.ok elements.flatten) rows none (World.mk .new 0 ())
    sizes.sum rfl (length_map _) (readingGuard_analyzed inhabited driverId _)
    (fun _ same => (Except.ok.inj same).symm) run
    (by rintro rewrite step control result answer _ ⟨⟩ ⟨⟩) estimated
  omega

/-- **Row counts of checked batches.** Whatever the statements are, the estimate of a batch of
these sizes is no less than what it affects: exactly if no number in the list falls on a
statement of an element outside it, unless the driver aborts every run anyway. -/
theorem checked_batch_counted_iff (driverId : String) (sizes expectOne : List Nat) :
    (∀ elements : List (List Mutation), elements.map List.length = sizes →
      (∀ element ∈ elements, ∀ statement ∈ element, Mutation.WellFormed statement) →
        CountedEnough driverId elements expectOne) ↔
      Covered sizes expectOne ∨ Unmeetable sizes expectOne := by
  constructor
  · intro enough
    by_contra neither
    rw [not_or] at neither
    obtain ⟨uncovered, meetable⟩ := neither
    obtain ⟨rows, affects, single, many⟩ :=
      @plantedBatch_run expectOne (sizes.sum + 1) 0 0 sizes (by
        intro element size sized listed
        rw [Nat.zero_add] at listed ⊢
        constructor
        · intro empty
          exact meetable ⟨element, listed, size, sized, .inl empty⟩
        · by_contra several
          exact meetable ⟨element, listed, size, sized, .inr (Nat.not_lt.mp several)⟩)
    obtain ⟨short, nonempty⟩ : sizes.sum + 1 ≤ affectedRows rows ∧ sizes.sum ≠ 0 := by
      by_contra less
      apply uncovered
      intro element size sized unlisted place within member
      refine less ⟨many element size place sized (by rwa [Nat.zero_add]) within
        (by rwa [Nat.zero_add]), fun empty => ?_⟩
      have inside := single_le_sum (fun _ _ => Nat.zero_le _) size (mem_of_getElem? sized)
      omega
    have listed : expectOne.isEmpty = false := by
      cases expectOne with
      | nil =>
        refine absurd ?_ uncovered
        intro element size sized unlisted place within member
        cases member
      | cons head tail => rfl
    have run : BatchRun (plantedBatch expectOne 0 sizes) expectOne rows :=
      { affects := affects
        single := fun element member => single element (by rwa [Nat.zero_add]) }
    exact planted_undercounted listed nonempty run short
      (enough _ (plantedBatch_sizes 0 sizes) (plantedBatch_wellFormed 0 sizes))
  intro fits elements sized wellFormed
  subst sized
  apply counted_enough_of_enforced
  intro rows total run counted
  rcases fits with covered | unmeetable
  · refine @affected_le_counted driverId expectOne elements rows 0 0 total run.affects ?_ ?_
      counted
    · intro element size sized unlisted place within
      rw [Nat.zero_add] at unlisted ⊢
      exact covered element size sized unlisted place within
    · intro element listed
      rw [Nat.zero_add] at listed
      exact run.single element listed
  · exact absurd run (not_run_of_unmeetable unmeetable wellFormed counted)

end

/-- An element without a statement before one that must insert one row and an UPDATE. -/
def shiftedBatch : List (String × List Value) :=
  [("", []), ("INSERT INTO t VALUES (1)", []), ("UPDATE big SET x = 1", [])]

def shiftedElements : List (List Mutation) :=
  [[], [.insert (.tableName "t") (.values 1)], [.update ⟨"big", ["big"]⟩ [] none]]

/-- The driver asks one row of the INSERT; the guard counts the UPDATE as one row and the whole
batch as two, and a run that updates a thousand rows is not aborted. -/
theorem shifted_batch_undercounted :
    trim (batchText shiftedBatch) = ";\nINSERT INTO t VALUES (1)\n;\nUPDATE big SET x = 1" ∧
      BatchRun shiftedElements [1] [[], [1], [1000]] ∧
      affectedRows [[], [1], [1000]] = 1001 ∧
      let guard := readingGuard "postgres" shiftedElements.flatten
      let analysis := guard.analyzeStatement (batchText shiftedBatch)
      AnalyzedAs "postgres" analysis (.ok shiftedElements.flatten) ∧
        (guard.estimateRows analysis (checkedRows analysis [1]) none none
          (World.mk .new 0 ())).exit = .done (some 2) := by
  refine ⟨by decide +kernel, ?_, rfl, readingGuard_analyzed (cons_ne_nil _ _) "postgres" _, ?_⟩
  · constructor
    · exact .cons .nil (.cons (.cons rfl .nil) (.cons (.cons trivial .nil) .nil))
    intro element listed counts found
    rw [mem_singleton.mp listed] at found
    cases found
    rfl
  · exact estimateRows_enforced (readingGuard_estimates "postgres" _ _)

end Bookie.Guard
