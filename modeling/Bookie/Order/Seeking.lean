/-
Paging by seeking. Each page is listed from the rows strictly behind the last row of
the page in front of it. Where keys may repeat, rows with a key of their own are still
met once each, whatever order is chosen among equals.
-/

import Mathlib.Data.List.Sort

namespace Bookie.Order

open List

variable {α : Type*}

/-- A strict order in which incomparability is an equivalence. -/
structure StrictOrder (before : α → α → Bool) : Prop where
  asymm : ∀ first second, before first second = true → before second first = false
  between : ∀ first second other, before first second = true →
    before first other = true ∨ before other second = true

def tied (before : α → α → Bool) (first second : α) : Bool :=
  !before first second && !before second first

/-- The rows in reach, in an order that puts none in front of one that comes before it. -/
structure Listing (before : α → α → Bool) (rows : List α) (reach : α → Bool) (listed : List α) :
    Prop where
  perm : listed.Perm (rows.filter reach)
  sorted : listed.Pairwise (fun first second => before second first = false)

/-- The pages from those rows on: a short page ends the run, a full one is followed by the
pages of the rows behind its last. -/
inductive SeekPages (before : α → α → Bool) (rows : List α) (limit : Nat) :
    (α → Bool) → List (List α) → Prop where
  | last {reach : α → Bool} {listed : List α} (listing : Listing before rows reach listed)
      (short : listed.length < limit) : SeekPages before rows limit reach [listed]
  | next {reach : α → Bool} {listed : List α} {row : α} {pages : List (List α)}
      (listing : Listing before rows reach listed) (full : limit ≤ listed.length)
      (ends : (listed.take limit).getLast? = some row)
      (rest : SeekPages before rows limit (before row) pages) :
      SeekPages before rows limit reach (listed.take limit :: pages)

section

variable {before : α → α → Bool} {rows : List α} {limit : Nat}

theorem StrictOrder.trans (order : StrictOrder before) {first second third : α}
    (one : before first second = true) (two : before second third = true) :
    before first third = true := by
  rcases order.between first second third one with direct | back
  · exact direct
  · rw [order.asymm second third two] at back
    cases back

theorem StrictOrder.irrefl (order : StrictOrder before) (row : α) : before row row = false := by
  cases self : before row row with
  | false => rfl
  | true => exact self.symm.trans (order.asymm row row self)

/-- Reach is closed forwards: what comes behind a row in reach is in reach. -/
def Closed (before : α → α → Bool) (reach : α → Bool) : Prop :=
  ∀ first second, reach first = true → before first second = true → reach second = true

theorem StrictOrder.closed (order : StrictOrder before) (row : α) : Closed before (before row) :=
  fun _ _ one two => order.trans one two

variable {reach : α → Bool} {row : α} {listed : List α} {pages : List (List α)}

private theorem filter_beyond (closed : Closed before reach) (reached : reach row = true) :
    rows.filter (before row) = (rows.filter reach).filter (before row) := by
  rw [filter_filter]
  apply filter_congr
  intro other _
  cases behind : before row other with
  | false => rfl
  | true => rw [closed row other reached behind]; rfl

theorem Listing.reached (listing : Listing before rows reach listed) (member : row ∈ listed) :
    reach row = true :=
  (mem_filter.mp (listing.perm.mem_iff.mp member)).2

theorem Listing.filter_perm (listing : Listing before rows reach listed) (chosen : α → Bool) :
    (listed.filter chosen).Perm ((rows.filter reach).filter chosen) :=
  listing.perm.filter chosen

theorem Listing.not_behind_last (order : StrictOrder before)
    (listing : Listing before rows reach listed) {other : α}
    (ends : (listed.take limit).getLast? = some row) (member : other ∈ listed.take limit) :
    before row other = false := by
  obtain ⟨front, split⟩ := getLast?_eq_some_iff.mp ends
  have sorted : (listed.take limit).Pairwise (fun first second => before second first = false) :=
    listing.sorted.sublist (take_sublist limit listed)
  rw [split] at sorted member
  rcases mem_append.mp member with inFront | atEnd
  · exact (pairwise_append.mp sorted).2.2 other inFront row mem_cons_self
  · rw [mem_singleton.mp atEnd]
    exact order.irrefl row

/-- A row behind the page that is not tied with its last row comes behind it. -/
theorem Listing.behind_last (listing : Listing before rows reach listed) {other : α}
    (ends : (listed.take limit).getLast? = some row) (member : other ∈ listed.drop limit)
    (apart : tied before other row = false) : before row other = true := by
  have sorted := listing.sorted
  rw [← take_append_drop limit listed] at sorted
  have notBefore := (pairwise_append.mp sorted).2.2 row
    (mem_of_getLast? ends) other member
  rw [tied, notBefore] at apart
  simpa using apart

/-- The rows left behind a page are fewer: its last row is not among them. -/
theorem Listing.fewer (order : StrictOrder before) (closed : Closed before reach)
    (listing : Listing before rows reach listed) (ends : (listed.take limit).getLast? = some row) :
    (rows.filter (before row)).length < (rows.filter reach).length := by
  have member : row ∈ listed := mem_of_mem_take (mem_of_getLast? ends)
  rw [filter_beyond closed (listing.reached member), ← listing.perm.length_eq,
    ← (listing.filter_perm (before row)).length_eq]
  apply length_filter_lt_length_iff_exists.mpr
  exact ⟨row, member, by rw [order.irrefl row]; exact Bool.false_ne_true⟩

theorem SeekPages.length_le (order : StrictOrder before) (closed : Closed before reach)
    (run : SeekPages before rows limit reach pages) :
    pages.length ≤ (rows.filter reach).length + 1 := by
  induction run with
  | last listing short => exact Nat.succ_le_succ (Nat.zero_le _)
  | next listing full ends rest ih =>
    have fewer := listing.fewer order closed ends
    have later := ih (order.closed _)
    rw [length_cons]
    omega

/-- **Seeking meets a row once.** A row alone with its key among the rows in reach is alone
with it on the pages, and a key no row in reach has is on no page. -/
theorem SeekPages.alone (order : StrictOrder before) (closed : Closed before reach)
    (run : SeekPages before rows limit reach pages) (row : α)
    (alone : (rows.filter reach).filter (tied before row) <+ [row]) :
    pages.flatten.filter (tied before row) = (rows.filter reach).filter (tied before row) := by
  -- lists of at most one row are equal when each is a permutation of the other
  have single {some_ all : List α} (same : some_.Perm all) (few : all <+ [row]) : some_ = all := by
    rcases sublist_singleton.mp few with rfl | rfl
    · exact perm_nil.mp same
    · exact perm_singleton.mp same
  induction run with
  | @last reach listed listing short =>
    rw [flatten_cons, flatten_nil, append_nil]
    exact single (listing.filter_perm _) alone
  | @next reach listed final pages listing full ends rest ih =>
    have onPage := mem_of_getLast? ends
    have left : (rows.filter (before final)).filter (tied before row) =
        ((rows.filter reach).filter (tied before row)).filter (before final) := by
      rw [filter_beyond closed (listing.reached (mem_of_mem_take onPage))]
      exact filter_comm _ _ _
    have whole := single (listing.filter_perm (tied before row)) alone
    rw [← take_append_drop limit listed, filter_append] at whole
    rw [← whole] at alone left ⊢
    have here : ((listed.take limit).filter (tied before row)).filter (before final) = [] := by
      apply filter_eq_nil_iff.mpr
      intro other member
      rw [listing.not_behind_last order ends (mem_of_mem_filter member)]
      exact Bool.false_ne_true
    have there : ((listed.drop limit).filter (tied before row)).filter (before final) =
        (listed.drop limit).filter (tied before row) := by
      apply filter_eq_self.mpr
      intro other member
      obtain rfl : other = row := mem_singleton.mp (alone.subset (mem_append_right _ member))
      refine listing.behind_last ends (mem_of_mem_filter member) ?_
      -- tied with the row, the last row of the page would be another one
      by_contra equal
      have first := length_pos_of_mem (mem_filter.mpr ⟨onPage, Bool.not_eq_false _ ▸ equal⟩)
      have second := length_pos_of_mem member
      have few := alone.length_le
      rw [length_append, length_singleton] at few
      omega
    rw [filter_append, here, there, nil_append] at left
    have later := ih (order.closed final) (left ▸ (sublist_append_right ..).trans alone)
    rw [flatten_cons, filter_append, later, left]

theorem SeekPages.congr {other : α → Bool} (same : rows.filter reach = rows.filter other)
    (run : SeekPages before rows limit reach pages) : SeekPages before rows limit other pages := by
  cases run with
  | last listing short => exact .last ⟨same ▸ listing.perm, listing.sorted⟩ short
  | next listing full ends rest => exact .next ⟨same ▸ listing.perm, listing.sorted⟩ full ends rest

private theorem exists_listing (order : StrictOrder before) (reach : α → Bool) :
    ∃ listed, Listing before rows reach listed := by
  have transitive : ∀ first second third, (!before second first) = true →
      (!before third second) = true → (!before third first) = true := by
    intro first second third one two
    rw [Bool.not_eq_true'] at one two ⊢
    cases back : before third first with
    | false => rfl
    | true =>
    rcases order.between third first second back with early | late
    · rw [two] at early
      cases early
    · rw [one] at late
      cases late
  have total : ∀ first second, (!before second first || !before first second) = true := by
    intro first second
    cases back : before second first with
    | false => rfl
    | true => rw [order.asymm second first back]; rfl
  refine ⟨(rows.filter reach).mergeSort (fun first second => !before second first),
    mergeSort_perm _ _, ?_⟩
  exact (pairwise_mergeSort transitive total (rows.filter reach)).imp
    (fun kept => by simpa using kept)

theorem exists_seekPages (order : StrictOrder before) (positive : 0 < limit) (reach : α → Bool)
    (closed : Closed before reach) : ∃ pages, SeekPages before rows limit reach pages := by
  induction size : (rows.filter reach).length using Nat.strong_induction_on generalizing reach with
  | _ size ih =>
    obtain ⟨listed, listing⟩ := @exists_listing α before rows order reach
    by_cases short : listed.length < limit
    · exact ⟨[listed], SeekPages.last listing short⟩
    have full : limit ≤ listed.length := Nat.not_lt.mp short
    have inhabited : listed.take limit ≠ [] := by
      intro empty
      have none_ := congrArg length empty
      rw [length_take, length_nil] at none_
      omega
    have ends := getLast?_eq_some_getLast inhabited
    have fewer := listing.fewer order closed ends
    obtain ⟨pages, rest⟩ := ih _ (size ▸ fewer) (before ((listed.take limit).getLast inhabited))
      (order.closed _) rfl
    exact ⟨listed.take limit :: pages, SeekPages.next listing full ends rest⟩

end

end Bookie.Order
