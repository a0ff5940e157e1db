/-
The rate limiter of the bridge. Each key has the times of its accepted calls of the
last minute. A call drops what is older from every window, and the windows that are
empty then, before it is counted itself.
-/

import Bookie.Store.Assoc

namespace Bookie.Mcp

open Store List

def maxTrackedKeys : Nat := 4096

def window : Nat := 60000000000

structure RateLimiter where
  maxPerMinute : UInt32
  windows : Assoc String (List Nat)

namespace RateLimiter

def new (maxPerMinute : UInt32) : RateLimiter := ⟨maxPerMinute, .empty⟩

/-- The windows without what is older than a minute; the caller's window may be empty. -/
def pruned (limiter : RateLimiter) (key : String) (now : Nat) : Assoc String (List Nat) where
  entries := (limiter.windows.entries.map fun entry =>
    (entry.1, entry.2.filter fun seen => now - seen < window)).filter fun entry =>
      !entry.2.isEmpty || entry.1 == key
  distinct := by
    refine Nodup.sublist (filter_sublist.map Prod.fst) ?_
    rw [map_map]
    exact limiter.windows.distinct

/-- Why a call of the key is refused, by the pruned windows. -/
def refusal (limiter : RateLimiter) (map : Assoc String (List Nat)) (key : String) :
    Option String :=
  if !map.contains key && maxTrackedKeys ≤ map.size then
    some "rate limiter is tracking too many callers"
  else if limiter.maxPerMinute ≤ UInt32.ofNat ((map.get? key).getD []).length then
    some s!"rate limit exceeded: {limiter.maxPerMinute} requests / minute"
  else none

def check (limiter : RateLimiter) (key : String) (now : Nat) : Except String Unit × RateLimiter :=
  let map := limiter.pruned key now
  match limiter.refusal map key with
  | some message => (.error message, { limiter with windows := map })
  | none => (.ok (), { limiter with
      windows := map.insert key ((map.get? key).getD [] ++ [now]) })

end RateLimiter

/-- A limiter with the calls it accepted, in their order. -/
structure LimiterRun where
  limiter : RateLimiter
  accepted : List (String × Nat)

def LimiterRun.call (run : LimiterRun) (call : String × Nat) : LimiterRun :=
  match run.limiter.check call.1 call.2 with
  | (.ok _, limiter) => ⟨limiter, run.accepted ++ [call]⟩
  | (.error _, limiter) => ⟨limiter, run.accepted⟩

def LimiterRun.after (maxPerMinute : UInt32) (calls : List (String × Nat)) : LimiterRun :=
  calls.foldl LimiterRun.call ⟨.new maxPerMinute, []⟩

def recent (accepted : List (String × Nat)) (key : String) (now : Nat) : List Nat :=
  (accepted.filter fun call => call.1 == key && call.2 ≤ now && now - call.2 < window).map Prod.snd

private theorem recent_append (accepted : List (String × Nat)) (key other : String)
    (now time : Nat) : recent (accepted ++ [(other, time)]) key now =
      recent accepted key now ++
        if other = key ∧ time ≤ now ∧ now - time < window then [time] else [] := by
  rw [recent, filter_append, map_append, recent]
  split
  · rename_i inside
    simp [inside]
  rename_i outside
  simp only [filter_cons]
  rw [if_neg (by simpa [and_assoc] using outside)]
  rfl

private theorem recent_later {accepted : List (String × Nat)} (key : String) {now later : Nat}
    (earlier : ∀ call ∈ accepted, call.2 ≤ now) (ordered : now ≤ later) :
    recent accepted key later =
      (recent accepted key now).filter fun seen => later - seen < window := by
  rw [recent, recent, filter_map, filter_filter]
  congr 1
  refine filter_congr fun call member => ?_
  have before := earlier call member
  have after := Nat.le_trans before ordered
  have nearer : later - call.2 < window → now - call.2 < window := by omega
  by_cases near : later - call.2 < window
  · simp [before, after, near, nearer near]
  · simp [near]

/-! ### What the windows hold -/

private theorem RateLimiter.get?_pruned (limiter : RateLimiter) (key other : String) (now : Nat) :
    (limiter.pruned key now).get? other = ((limiter.windows.get? other).map fun times =>
        times.filter fun seen => now - seen < window).filter
          fun times => !times.isEmpty || other == key := by
  ext times
  rw [Option.filter_eq_some_iff, Option.map_eq_some_iff]
  simp only [pruned, mem_filter, mem_map, Prod.mk.injEq, Assoc.get?_eq_some_iff]
  constructor
  · rintro ⟨⟨entry, member, rfl, rfl⟩, kept⟩
    exact ⟨⟨entry.2, member, rfl⟩, kept⟩
  · rintro ⟨⟨old, member, rfl⟩, kept⟩
    exact ⟨⟨_, member, rfl, rfl⟩, kept⟩

private theorem RateLimiter.size_insert {windows : Assoc String (List Nat)} {key : String}
    {times : List Nat} (few : windows.size ≤ maxTrackedKeys)
    (room : windows.contains key = false → windows.size < maxTrackedKeys) :
    (windows.insert key times).size ≤ maxTrackedKeys := by
  cases known : windows.contains key with
  | false => exact Nat.lt_of_le_of_lt (length_filter_le _ _) (room known)
  | true =>
  obtain ⟨old, found⟩ := Option.isSome_iff_exists.mp known
  have member := (windows.get?_eq_some_iff key old).mp found
  have fewer : (windows.erase key).size < windows.size :=
    length_filter_lt_length_iff_exists.mpr ⟨(key, old), member, by simp⟩
  exact Nat.le_trans fewer few

/-- The windows hold the recent calls, and no key called too often in any minute. -/
structure Counted (maxPerMinute : UInt32) (run : LimiterRun) (now : Nat) : Prop where
  limit : run.limiter.maxPerMinute = maxPerMinute
  past : ∀ call ∈ run.accepted, call.2 ≤ now
  held : ∀ key, (run.limiter.windows.get? key).getD [] = recent run.accepted key now
  inhabited : ∀ key, run.limiter.windows.get? key ≠ some []
  few : run.limiter.windows.size ≤ maxTrackedKeys
  bounded : ∀ key time, (recent run.accepted key time).length ≤ maxPerMinute.toNat

namespace Counted

variable {maxPerMinute : UInt32} {run : LimiterRun} {now later : Nat} {key : String}

private theorem inhabited_pruned {other : String} (different : other ≠ key) :
    (run.limiter.pruned key later).get? other ≠ some [] := by
  rw [RateLimiter.get?_pruned]
  intro empty
  have kept := (Option.filter_eq_some_iff.mp empty).2
  simp [different] at kept

variable (counted : Counted maxPerMinute run now)

include counted

/-- A window that is empty after pruning held a call before, so the limit is not zero. -/
private theorem positive (empty : (run.limiter.pruned key later).get? key = some []) :
    0 < maxPerMinute.toNat := by
  rw [RateLimiter.get?_pruned] at empty
  obtain ⟨times, found, -⟩ := Option.map_eq_some_iff.mp (Option.filter_eq_some_iff.mp empty).1
  have nonempty : times ≠ [] := fun none => counted.inhabited key (by rw [found, none])
  have held := counted.held key
  rw [found] at held
  have bounded := counted.bounded key now
  rw [← held] at bounded
  exact Nat.lt_of_lt_of_le (length_pos_iff.mpr nonempty) bounded

variable (ordered : now ≤ later)

include ordered

private theorem held_pruned (key other : String) :
    ((run.limiter.pruned key later).get? other).getD [] = recent run.accepted other later := by
  rw [recent_later other counted.past ordered, ← counted.held, RateLimiter.get?_pruned]
  cases run.limiter.windows.get? other with
  | none => rfl
  | some times =>
  rw [Option.map_some, Option.filter_some]
  split
  · rfl
  rename_i dropped
  simp only [Bool.or_eq_true, Bool.not_eq_true', not_or, Bool.not_eq_false,
    List.isEmpty_iff] at dropped
  exact dropped.1.symm

private theorem others_called (absent : (run.limiter.pruned key later).contains key = false) :
    key ∉ (run.limiter.pruned key later).entries.map Prod.fst ∧
      ∀ other ∈ (run.limiter.pruned key later).entries.map Prod.fst,
        recent run.accepted other later ≠ [] := by
  have found : ∀ other ∈ (run.limiter.pruned key later).entries.map Prod.fst,
      ∃ times, (run.limiter.pruned key later).get? other = some times := by
    intro other member
    obtain ⟨entry, inside, rfl⟩ := mem_map.mp member
    exact ⟨entry.2, (Assoc.get?_eq_some_iff _ _ _).mpr inside⟩
  have missing : key ∉ (run.limiter.pruned key later).entries.map Prod.fst := by
    intro member
    obtain ⟨times, known⟩ := found key member
    rw [Assoc.contains, known] at absent
    cases absent
  refine ⟨missing, fun other member => ?_⟩
  obtain ⟨times, known⟩ := found other member
  rw [← counted.held_pruned ordered key, known]
  rintro rfl
  refine inhabited_pruned ?_ known
  rintro rfl
  exact missing member

private theorem refused_for {message : String}
    (refused : run.limiter.refusal (run.limiter.pruned key later) key = some message) :
    (maxPerMinute.toNat ≤ (recent run.accepted key later).length ∨
        ∃ others : List String, maxTrackedKeys ≤ others.length ∧ others.Nodup ∧ key ∉ others ∧
          ∀ other ∈ others, recent run.accepted other later ≠ []) ∧
      (run.limiter.pruned key later).get? key ≠ some [] := by
  unfold RateLimiter.refusal at refused
  split at refused
  · rename_i full
    simp only [Bool.and_eq_true, Bool.not_eq_true', decide_eq_true_eq] at full
    obtain ⟨missing, called⟩ := counted.others_called ordered full.1
    refine ⟨.inr ⟨_, ?_, (run.limiter.pruned key later).distinct, missing, called⟩, ?_⟩
    · rw [length_map]
      exact full.2
    intro empty
    have absent := full.1
    rw [Assoc.contains, empty] at absent
    cases absent
  split at refused
  · rename_i reached
    have small := Nat.lt_of_le_of_lt (counted.bounded key later) maxPerMinute.toNat_lt
    rw [counted.limit, UInt32.le_iff_toNat_le, counted.held_pruned ordered,
      UInt32.toNat_ofNat', Nat.mod_eq_of_lt small] at reached
    refine ⟨.inl reached, fun empty => ?_⟩
    rw [← counted.held_pruned ordered key, empty] at reached
    exact Nat.not_le_of_lt (counted.positive empty) reached
  · cases refused

private theorem admitted_for
    (admitted : run.limiter.refusal (run.limiter.pruned key later) key = none) :
    ((run.limiter.pruned key later).contains key = false →
        (run.limiter.pruned key later).size < maxTrackedKeys) ∧
      (recent run.accepted key later).length < maxPerMinute.toNat := by
  unfold RateLimiter.refusal at admitted
  split at admitted
  · cases admitted
  rename_i room
  split at admitted
  · cases admitted
  rename_i below
  have small := Nat.lt_of_le_of_lt (counted.bounded key later) maxPerMinute.toNat_lt
  rw [counted.limit, UInt32.le_iff_toNat_le, counted.held_pruned ordered,
    UInt32.toNat_ofNat', Nat.mod_eq_of_lt small, Nat.not_le] at below
  refine ⟨fun absent => ?_, below⟩
  by_contra many
  exact room (by simp [absent, Nat.not_lt.mp many])

private theorem call (key : String) : Counted maxPerMinute (run.call (key, later)) later := by
  have past : ∀ call ∈ run.accepted, call.2 ≤ later := fun call member =>
    Nat.le_trans (counted.past call member) ordered
  have few : (run.limiter.pruned key later).size ≤ maxTrackedKeys :=
    Nat.le_trans (length_filter_le _ _) (by rw [length_map]; exact counted.few)
  rw [LimiterRun.call, RateLimiter.check]
  cases refusal : run.limiter.refusal (run.limiter.pruned key later) key with
  | some message =>
    refine ⟨counted.limit, past, counted.held_pruned ordered key, fun other => ?_, few,
      counted.bounded⟩
    by_cases same : other = key
    · rw [same]
      exact (counted.refused_for ordered refusal).2
    · exact inhabited_pruned same
  | none =>
  obtain ⟨room, below⟩ := counted.admitted_for ordered refusal
  refine ⟨counted.limit, ?_, fun other => ?_, fun other => ?_, RateLimiter.size_insert few room,
    fun other time => ?_⟩
  · exact forall_mem_append.mpr ⟨past, by simp⟩
  · rw [recent_append]
    by_cases same : other = key
    · rw [same, Assoc.get?_insert_self, counted.held_pruned ordered, if_pos
        ⟨rfl, Nat.le_refl _, by rw [Nat.sub_self]; decide⟩]
      rfl
    · rw [Assoc.get?_insert_ne _ _ same, counted.held_pruned ordered,
        if_neg (fun inside => same inside.1.symm), append_nil]
  · by_cases same : other = key
    · rw [same]
      simp
    · rw [Assoc.get?_insert_ne _ _ same]
      exact inhabited_pruned same
  rw [recent_append, length_append]
  split
  · -- in a minute with the new call are only calls that were recent at its time
    rename_i inside
    obtain ⟨rfl, before, -⟩ := inside
    rw [recent_later key past before]
    have fewer := length_filter_le (fun seen => decide (time - seen < window))
      (recent run.accepted key later)
    exact Nat.le_trans (Nat.succ_le_succ fewer) below
  · exact counted.bounded other time

omit ordered in
private theorem calls (calls : List (String × Nat))
    (ordered : (now :: calls.map Prod.snd).Pairwise (· ≤ ·)) :
    ∃ last ∈ now :: calls.map Prod.snd,
      Counted maxPerMinute (calls.foldl LimiterRun.call run) last := by
  induction calls generalizing run now with
  | nil => exact ⟨now, mem_cons_self, counted⟩
  | cons next calls ih =>
    obtain ⟨first, rest⟩ := pairwise_cons.mp ordered
    obtain ⟨last, member, final⟩ := ih (counted.call (first next.2 mem_cons_self) next.1) rest
    exact ⟨last, mem_cons_of_mem _ member, final⟩

end Counted

/-- **Sliding window.** Calls come in the order of their times. No key has more accepted calls
than the limit in any minute, a call is refused for as many accepted calls of its own in the
last minute or for as many other keys as are tracked, and no more keys are tracked. -/
theorem rate_limit_sliding_window (maxPerMinute : UInt32) (calls : List (String × Nat))
    (key : String) (now : Nat)
    (ordered : ((calls ++ [(key, now)]).map Prod.snd).Pairwise (· ≤ ·)) :
    (∀ other time, (recent (LimiterRun.after maxPerMinute (calls ++ [(key, now)])).accepted other
        time).length ≤ maxPerMinute.toNat) ∧
      (∀ message,
        ((LimiterRun.after maxPerMinute calls).limiter.check key now).1 = .error message →
          maxPerMinute.toNat ≤
              (recent (LimiterRun.after maxPerMinute calls).accepted key now).length ∨
            ∃ others : List String, maxTrackedKeys ≤ others.length ∧ others.Nodup ∧
              key ∉ others ∧ ∀ other ∈ others,
                recent (LimiterRun.after maxPerMinute calls).accepted other now ≠ []) ∧
      (LimiterRun.after maxPerMinute (calls ++ [(key, now)])).limiter.windows.size ≤
        maxTrackedKeys := by
  rw [map_append, pairwise_append] at ordered
  obtain ⟨earlier, -, before⟩ := ordered
  have new : Counted maxPerMinute ⟨.new maxPerMinute, []⟩ 0 :=
    ⟨rfl, nofun, fun _ => rfl, nofun, Nat.zero_le _, fun _ _ => Nat.zero_le _⟩
  obtain ⟨last, member, counted⟩ := new.calls calls
    (pairwise_cons.mpr ⟨fun _ _ => Nat.zero_le _, earlier⟩)
  have least : last ≤ now := by
    rcases mem_cons.mp member with rfl | inside
    · exact Nat.zero_le now
    · exact before last inside now (mem_singleton_self now)
  have whole : LimiterRun.after maxPerMinute (calls ++ [(key, now)]) =
      LimiterRun.call (LimiterRun.after maxPerMinute calls) (key, now) :=
    foldl_append
  have step := counted.call least key
  rw [whole]
  refine ⟨step.bounded, fun message refused => ?_, step.few⟩
  rw [RateLimiter.check] at refused
  split at refused
  · rename_i refusal
    exact (counted.refused_for least refusal).1
  · cases refused

/-- The third of three calls in a minute is refused when two are allowed. -/
theorem third_call_refused :
    (LimiterRun.after 2 [("agent", 0), ("agent", 5), ("agent", 9)]).accepted =
        [("agent", 0), ("agent", 5)] ∧
      (recent [("agent", 0), ("agent", 5)] "agent" 9).length ≤ (2 : UInt32).toNat :=
  ⟨rfl, (rate_limit_sliding_window 2 [("agent", 0), ("agent", 5)] "agent" 9 (by decide)).1
    "agent" 9⟩

end Bookie.Mcp
