/-
Finite maps as association lists whose keys are distinct. Two maps are the same
when they give the same entry for every key, in whatever order they keep them.
-/

import Mathlib.Data.List.Nodup

namespace Bookie.Store

open List

structure Assoc (κ ν : Type) where
  entries : List (κ × ν)
  distinct : (entries.map Prod.fst).Nodup

namespace Assoc

variable {κ ν : Type}

def empty : Assoc κ ν := ⟨[], nodup_nil⟩

variable (map : Assoc κ ν)
include map

private theorem distinct_filter (keep : κ × ν → Bool) :
    ((map.entries.filter keep).map Prod.fst).Nodup :=
  map.distinct.sublist (filter_sublist.map Prod.fst)

def retain (map : Assoc κ ν) (keep : κ → Bool) : Assoc κ ν :=
  ⟨map.entries.filter (fun entry => keep entry.1), map.distinct_filter _⟩

def size (map : Assoc κ ν) : Nat := map.entries.length

variable [DecidableEq κ]

def get? (map : Assoc κ ν) (key : κ) : Option ν :=
  (map.entries.find? (fun entry => decide (entry.1 = key))).map Prod.snd

def contains (map : Assoc κ ν) (key : κ) : Bool := (map.get? key).isSome

def erase (map : Assoc κ ν) (key : κ) : Assoc κ ν := map.retain (fun other => !decide (other = key))

def insert (map : Assoc κ ν) (key : κ) (value : ν) : Assoc κ ν where
  entries := (key, value) :: (map.erase key).entries
  distinct := by
    rw [map_cons, nodup_cons]
    refine ⟨?_, (map.erase key).distinct⟩
    intro member
    obtain ⟨entry, inside, same⟩ := mem_map.mp member
    have other : (!decide (entry.1 = key)) = true := (mem_filter.mp inside).2
    rw [decide_eq_true same] at other
    cases other

def Same (first second : Assoc κ ν) : Prop := ∀ key, first.get? key = second.get? key

theorem Same.refl : Same map map := fun _ => rfl

variable (key : κ)

theorem get?_eq_some_iff (value : ν) : map.get? key = some value ↔ (key, value) ∈ map.entries := by
  unfold get?
  constructor
  · intro found
    obtain ⟨entry, seen, same⟩ := Option.map_eq_some_iff.mp found
    have here : entry.1 = key := of_decide_eq_true (find?_some seen :)
    have member := mem_of_find?_eq_some seen
    rw [← here, ← same]
    exact member
  intro member
  cases found : map.entries.find? (fun entry => decide (entry.1 = key)) with
  | none =>
    have absent := find?_eq_none.mp found (key, value) member
    exact absurd (decide_eq_true rfl) absent
  | some entry =>
  have here : entry.1 = key := of_decide_eq_true (find?_some found :)
  have inside := mem_of_find?_eq_some found
  have same : entry = (key, value) := inj_on_of_nodup_map map.distinct inside member here
  rw [same]
  rfl

theorem get?_eq_none_iff : map.get? key = none ↔ ∀ value, (key, value) ∉ map.entries := by
  constructor
  · intro absent value member
    rw [(map.get?_eq_some_iff key value).mpr member] at absent
    cases absent
  intro absent
  cases found : map.get? key with
  | none => rfl
  | some value => exact absurd ((map.get?_eq_some_iff key value).mp found) (absent value)

theorem get?_retain (keep : κ → Bool) (key : κ) :
    (map.retain keep).get? key = if keep key then map.get? key else none := by
  cases found : (map.retain keep).get? key with
  | none =>
    rw [get?_eq_none_iff] at found
    split
    · rename_i kept
      symm
      rw [get?_eq_none_iff]
      intro value member
      exact found value (mem_filter.mpr ⟨member, kept⟩)
    · rfl
  | some value =>
    rw [get?_eq_some_iff] at found
    obtain ⟨member, kept⟩ := mem_filter.mp found
    rw [if_pos kept]
    exact ((map.get?_eq_some_iff key value).mpr member).symm

@[simp] theorem get?_erase_self : (map.erase key).get? key = none := by
  rw [erase, get?_retain, decide_eq_true rfl]
  rfl

theorem get?_erase_ne {key other : κ} (different : other ≠ key) :
    (map.erase key).get? other = map.get? other := by
  rw [erase, get?_retain, decide_eq_false different]
  rfl

@[simp] theorem get?_insert_self (value : ν) : (map.insert key value).get? key = some value := by
  rw [get?_eq_some_iff]
  exact mem_cons_self ..

theorem get?_insert_ne {key other : κ} (value : ν) (different : other ≠ key) :
    (map.insert key value).get? other = map.get? other := by
  rw [← map.get?_erase_ne different]
  unfold get? insert
  rw [find?_cons_of_neg]
  intro same
  exact different (of_decide_eq_true same).symm

end Assoc

end Bookie.Store
