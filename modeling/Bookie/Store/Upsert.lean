/-
Lists of records that are replaced by key. A record takes the place of every record with
its key, and goes to the end.
-/

import Mathlib.Data.List.Nodup

namespace Bookie.Store

open List

variable {α κ : Type} [DecidableEq κ]

def upsert (key : α → κ) (records : List α) (item : α) : List α :=
  records.filter (fun record => key record != key item) ++ [item]

def upsertAll (key : α → κ) (records items : List α) : List α := items.foldl (upsert key) records

variable {key : α → κ}

/-- Items with keys of their own replace what has one of these keys, all at once. -/
theorem upsertAll_eq {items : List α} (distinct : (items.map key).Nodup) (records : List α) :
    upsertAll key records items =
      records.filter (fun record => !(items.map key).contains (key record)) ++ items := by
  unfold upsertAll
  induction items generalizing records with
  | nil =>
    rw [append_nil]
    exact (filter_true records).symm
  | cons item rest ih =>
    rw [map_cons, nodup_cons] at distinct
    rw [foldl_cons, ih distinct.2, upsert, filter_append, filter_filter]
    -- the item just pushed is not replaced by a later one
    have stays : [item].filter (fun record => !(rest.map key).contains (key record)) = [item] := by
      rw [filter_cons, if_pos (by simpa using distinct.1), filter_nil]
    rw [stays, append_assoc]
    congr 1
    apply filter_congr
    intro record _
    rw [map_cons, contains_cons, Bool.not_or, Bool.and_comm, bne]

variable {records items : List α}

theorem upsertAll_distinct (recorded : (records.map key).Nodup) (distinct : (items.map key).Nodup) :
    ((upsertAll key records items).map key).Nodup := by
  rw [upsertAll_eq distinct, map_append]
  apply List.Nodup.append
  · exact recorded.sublist (List.Sublist.map key filter_sublist)
  · exact distinct
  intro name kept named
  obtain ⟨record, inside, rfl⟩ := mem_map.mp kept
  have unnamed := (mem_filter.mp inside).2
  rw [Bool.not_eq_true', contains_eq_mem, decide_eq_false_iff_not] at unnamed
  exact unnamed named

theorem upsertAll_filter_item (distinct : (items.map key).Nodup) {item : α}
    (member : item ∈ items) :
    (upsertAll key records items).filter (fun record => key record == key item) = [item] := by
  rw [upsertAll_eq distinct, filter_append, filter_filter]
  have gone : records.filter (fun record => key record == key item &&
      !(items.map key).contains (key record)) = [] := by
    rw [filter_eq_nil_iff]
    intro record _ both
    rw [Bool.and_eq_true] at both
    have same := eq_of_beq both.1
    rw [same] at both
    have named : (items.map key).contains (key item) = true :=
      contains_iff_mem.mpr (mem_map_of_mem member)
    rw [named] at both
    exact absurd both.2 (by decide)
  rw [gone, nil_append]
  clear gone
  induction items with
  | nil => cases member
  | cons head rest ih =>
    rw [map_cons, nodup_cons] at distinct
    rcases mem_cons.mp member with rfl | later
    · have others : rest.filter (fun record => key record == key item) = [] := by
        rw [filter_eq_nil_iff]
        intro record inside same
        exact distinct.1 (eq_of_beq same ▸ mem_map_of_mem inside)
      rw [filter_cons, if_pos (beq_self_eq_true _), others]
    have different : (key head == key item) = false := by
      rw [beq_eq_false_iff_ne]
      intro same
      exact distinct.1 (same ▸ mem_map_of_mem later)
    rw [filter_cons, different]
    exact ih distinct.2 later

end Bookie.Store
