/-
Writes to a table, one after another, each meant for the row of one name. When each
affects just its row, the outcome is that of all of them at once; with unique keys,
each does so exactly if its row was there to begin with.
-/

import Mathlib.Data.List.Nodup
import Mathlib.Data.List.Pairwise

namespace Bookie.Store

open List Option

/-- A row of a table in use, with the row of the table before that it comes from. -/
structure Tuple (ρ : Type) where
  origin : Option ρ
  row : ρ
  deriving DecidableEq, Repr

/-- `effect` is the row after the write, none if the write removes it. -/
structure Write (κ ρ : Type) where
  key : κ
  affects : ρ → Bool
  effect : ρ → Option ρ

variable {κ ρ : Type}

namespace Write

def onTuple (write : Write κ ρ) (tuple : Tuple ρ) : Option (Tuple ρ) :=
  if write.affects tuple.row then (write.effect tuple.row).map (Tuple.mk tuple.origin)
  else some tuple

def apply (write : Write κ ρ) (tuples : List (Tuple ρ)) : List (Tuple ρ) :=
  tuples.filterMap write.onTuple

def affected (write : Write κ ρ) (tuples : List (Tuple ρ)) : List (Tuple ρ) :=
  tuples.filter (fun tuple => write.affects tuple.row)

/-- The write affects one tuple, and that tuple comes from the row it is meant for. -/
def Exact (named : ρ → Option κ) (write : Write κ ρ) (tuples : List (Tuple ρ)) : Prop :=
  ∃ tuple row, write.affected tuples = [tuple] ∧ tuple.origin = some row ∧
    named row = some write.key

end Write

def Exactly (named : ρ → Option κ) : List (Write κ ρ) → List (Tuple ρ) → Prop
  | [], _ => True
  | write :: rest, tuples => write.Exact named tuples ∧ Exactly named rest (write.apply tuples)

def runWrites (writes : List (Write κ ρ)) (tuples : List (Tuple ρ)) : List (Tuple ρ) :=
  writes.foldl (fun tuples write => write.apply tuples) tuples

def Unique (clash : ρ → ρ → Prop) (tuples : List (Tuple ρ)) : Prop :=
  tuples.Pairwise (fun first second =>
    ¬ clash first.row second.row ∧ ¬ clash second.row first.row)

def UniqueAlong (clash : ρ → ρ → Prop) : List (Write κ ρ) → List (Tuple ρ) → Prop
  | [], tuples => Unique clash tuples
  | write :: rest, tuples => Unique clash tuples ∧ UniqueAlong clash rest (write.apply tuples)

def original (table : List ρ) : List (Tuple ρ) := table.map (fun row => ⟨some row, row⟩)

private theorem fresh_of_distinct {done rest : List (Write κ ρ)} {write : Write κ ρ}
    (distinct : ((done ++ write :: rest).map Write.key).Nodup) :
    ∀ earlier ∈ done, earlier.key ≠ write.key := by
  intro earlier member same
  rw [map_append] at distinct
  apply (nodup_append.mp distinct).2.2 earlier.key (mem_map_of_mem member)
    write.key mem_cons_self
  exact same

section Simultaneous

variable [DecidableEq κ] (named : ρ → Option κ)

def written (writes : List (Write κ ρ)) (row : ρ) : Option ρ :=
  match writes.find? (fun write => decide (named row = some write.key)) with
  | none => some row
  | some write => write.effect row

/-- The table with all the writes made on its rows as they are. -/
def simultaneously (writes : List (Write κ ρ)) (table : List ρ) : List (Tuple ρ) :=
  table.filterMap (fun row => (written named writes row).map (Tuple.mk (some row)))

variable {named}

theorem simultaneously_nil (table : List ρ) : simultaneously named [] table = original table := by
  unfold simultaneously original
  rw [← filterMap_eq_map]
  rfl

variable {writes : List (Write κ ρ)} {row : ρ} {done : List (Write κ ρ)} {write : Write κ ρ}
  {table : List ρ}

theorem written_unnamed (unnamed : ∀ write ∈ writes, named row ≠ some write.key) :
    written named writes row = some row := by
  unfold written
  rw [find?_eq_none.mpr]
  intro write member same
  exact unnamed write member (of_decide_eq_true same)

private theorem written_append_other (other : named row ≠ some write.key) :
    written named (done ++ [write]) row = written named done row := by
  unfold written
  rw [find?_append, find?_cons, decide_eq_false other, find?_nil, or_none]

private theorem written_append_meant (fresh : ∀ earlier ∈ done, earlier.key ≠ write.key)
    (meant : named row = some write.key) :
    written named (done ++ [write]) row = write.effect row := by
  have unnamed : done.find? (fun earlier => decide (named row = some earlier.key)) = none := by
    apply find?_eq_none.mpr
    intro earlier member same
    have equal := (of_decide_eq_true same).symm.trans meant
    exact fresh earlier member (some.inj equal)
  unfold written
  rw [find?_append, unnamed, none_or, find?_cons, decide_eq_true meant]

private theorem written_before (fresh : ∀ earlier ∈ done, earlier.key ≠ write.key)
    (meant : named row = some write.key) :
    written named done row = some row := by
  apply written_unnamed
  intro earlier member same
  exact fresh earlier member (some.inj (same.symm.trans meant))

theorem written_of_mem (distinct : (writes.map Write.key).Nodup) (member : write ∈ writes)
    (meant : named row = some write.key) : written named writes row = write.effect row := by
  unfold written
  cases found : writes.find? (fun write => decide (named row = some write.key)) with
  | none =>
    have absent := find?_eq_none.mp found write member
    exact absurd (decide_eq_true meant) absent
  | some other =>
  have otherMeant : named row = some other.key := of_decide_eq_true (find?_some found :)
  have same : other = write := inj_on_of_nodup_map distinct
    (mem_of_find?_eq_some found) member (some.inj (otherMeant.symm.trans meant))
  rw [same]

private theorem mem_simultaneously {tuple : Tuple ρ} :
    tuple ∈ simultaneously named writes table ↔
      ∃ row ∈ table, written named writes row = some tuple.row ∧ tuple.origin = some row := by
  unfold simultaneously
  rw [mem_filterMap]
  constructor
  · rintro ⟨row, inside, made⟩
    obtain ⟨after, kept, rfl⟩ := map_eq_some_iff.mp made
    exact ⟨row, inside, kept, rfl⟩
  · rintro ⟨row, inside, kept, from_⟩
    refine ⟨row, inside, ?_⟩
    rw [kept, map_some, ← from_]

/-! ### One write after another -/

/-- The tuple an exact write affects is the row it is meant for, as that row was. -/
theorem Write.Exact.meant (fresh : ∀ earlier ∈ done, earlier.key ≠ write.key)
    (exact : write.Exact named (simultaneously named done table)) :
    ∃ row ∈ table, named row = some write.key ∧ write.affects row = true ∧
      write.affected (simultaneously named done table) = [⟨some row, row⟩] := by
  obtain ⟨⟨origin, current⟩, row, alone, rfl, meant⟩ := exact
  have member : (⟨some row, current⟩ : Tuple ρ) ∈
      write.affected (simultaneously named done table) := by
    rw [alone]
    exact mem_singleton_self _
  obtain ⟨present, affects⟩ := mem_filter.mp member
  obtain ⟨source, inside, kept, same⟩ := mem_simultaneously.mp present
  cases same
  rw [written_before fresh meant] at kept
  have unchanged : row = current := some.inj kept
  subst unchanged
  exact ⟨row, inside, meant, affects, alone⟩

variable (single : ∀ first ∈ table, ∀ second ∈ table, ∀ key,
  named first = some key → named second = some key → first = second)
include single

/-- An exact write on top of the writes done before. -/
private theorem apply_simultaneously (fresh : ∀ earlier ∈ done, earlier.key ≠ write.key)
    (exact : write.Exact named (simultaneously named done table)) :
    write.apply (simultaneously named done table) =
      simultaneously named (done ++ [write]) table := by
  obtain ⟨target, targetInside, targetMeant, targetAffects, alone⟩ := exact.meant fresh
  unfold Write.apply
  rw [simultaneously, filterMap_filterMap]
  apply filterMap_congr
  intro row inside
  by_cases meant : named row = some write.key
  · have same : row = target := single row inside target targetInside write.key meant targetMeant
    subst same
    rw [written_append_meant fresh meant, written_before fresh meant, map_some,
      bind_some, Write.onTuple, if_pos targetAffects]
  rw [written_append_other meant]
  cases kept : written named done row with
  | none => rfl
  | some current =>
  rw [map_some, bind_some, Write.onTuple, if_neg]
  -- Any other tuple the write affected would be the one tuple it affects.
  intro affects
  have member : (⟨some row, current⟩ : Tuple ρ) ∈
      write.affected (simultaneously named done table) :=
    mem_filter.mpr ⟨mem_simultaneously.mpr ⟨row, inside, kept, rfl⟩, affects⟩
  rw [alone, mem_singleton] at member
  cases member
  exact meant targetMeant

theorem runWrites_simultaneously (writes done : List (Write κ ρ))
    (distinct : ((done ++ writes).map Write.key).Nodup)
    (exactly : Exactly named writes (simultaneously named done table)) :
    runWrites writes (simultaneously named done table) =
      simultaneously named (done ++ writes) table := by
  induction writes generalizing done with
  | nil =>
    rw [append_nil]
    rfl
  | cons write rest ih =>
    have fresh : ∀ earlier ∈ done, earlier.key ≠ write.key := fresh_of_distinct distinct
    have step := apply_simultaneously single fresh exactly.1
    have later : Exactly named rest (simultaneously named (done ++ [write]) table) := by
      rw [← step]
      exact exactly.2
    have rest_ := ih (done ++ [write]) (by rwa [append_assoc]) later
    rw [append_assoc, singleton_append] at rest_
    rw [← rest_, ← step]
    rfl

/-! ### When every write is exact -/

omit single in
private theorem filter_eq_singleton {clash : ρ → ρ → Prop} {tuples : List (Tuple ρ)}
    {tuple : Tuple ρ} {meets : ρ → Bool} (unique : Unique clash tuples) (member : tuple ∈ tuples)
    (here : meets tuple.row = true) (clashes : ∀ row, meets row = true → clash row tuple.row) :
    tuples.filter (fun other => meets other.row) = [tuple] := by
  obtain ⟨before, after, rfl⟩ := append_of_mem member
  obtain ⟨_, behind, across⟩ := pairwise_append.mp unique
  have front : before.filter (fun other => meets other.row) = [] := by
    apply filter_eq_nil_iff.mpr
    intro other inside met
    exact (across other inside tuple mem_cons_self).1 (clashes other.row met)
  have back : after.filter (fun other => meets other.row) = [] := by
    apply filter_eq_nil_iff.mpr
    intro other inside met
    exact ((pairwise_cons.mp behind).1 other inside).2 (clashes other.row met)
  rw [filter_append, front, filter_cons, if_pos here, back, nil_append]

theorem exactly_iff {clash : ρ → ρ → Prop} (writes done : List (Write κ ρ))
    (distinct : ((done ++ writes).map Write.key).Nodup)
    (clashes : ∀ write ∈ writes, ∀ row, named row = some write.key →
      ∀ other, write.affects other = true → clash other row)
    (unique : UniqueAlong clash writes (simultaneously named done table)) :
    Exactly named writes (simultaneously named done table) ↔
      ∀ write ∈ writes, ∃ row ∈ table, named row = some write.key ∧ write.affects row = true := by
  induction writes generalizing done with
  | nil =>
    constructor
    · intro _ write member
      cases member
    · intro _
      exact trivial
  | cons write rest ih =>
    have fresh : ∀ earlier ∈ done, earlier.key ≠ write.key := fresh_of_distinct distinct
    have distinctNext : ((done ++ [write] ++ rest).map Write.key).Nodup := by
      rwa [append_assoc]
    have clashesNext := fun later member => clashes later (mem_cons_of_mem write member)
    -- Both directions go on from the state after an exact first write.
    have onward (exact : write.Exact named (simultaneously named done table)) :
        Exactly named rest (write.apply (simultaneously named done table)) ↔
          ∀ later ∈ rest, ∃ row ∈ table, named row = some later.key ∧ later.affects row = true := by
      have step := apply_simultaneously single fresh exact
      have uniqueNext := unique.2
      rw [step] at uniqueNext ⊢
      exact ih (done ++ [write]) distinctNext clashesNext uniqueNext
    constructor
    · intro exactly later member
      rcases mem_cons.mp member with rfl | behind
      · obtain ⟨row, inside, meant, affects, _⟩ := exactly.1.meant fresh
        exact ⟨row, inside, meant, affects⟩
      · exact (onward exactly.1).mp exactly.2 later behind
    intro present
    obtain ⟨row, inside, meant, affects⟩ := present write mem_cons_self
    have member : (⟨some row, row⟩ : Tuple ρ) ∈ simultaneously named done table :=
      mem_simultaneously.mpr ⟨row, inside, written_before fresh meant, rfl⟩
    have alone := filter_eq_singleton unique.1 member affects
      (clashes write mem_cons_self row meant)
    have exact : write.Exact named (simultaneously named done table) :=
      ⟨⟨some row, row⟩, row, alone, rfl, meant⟩
    constructor
    · exact exact
    · apply (onward exact).mpr
      intro later behind
      exact present later (mem_cons_of_mem write behind)

end Simultaneous

end Bookie.Store
