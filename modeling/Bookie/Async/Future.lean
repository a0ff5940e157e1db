/-
Asynchronous computations that report what they did. A run ends with a value, an
error, a panic, or because its future was dropped; the state and the events so far
remain. A specification states what holds on each of these exits.
-/

import Mathlib.Order.Basic

namespace Bookie.Async

open List

inductive Exit (ε α : Type) where
  | done (value : α)
  | failed (error : ε)
  | panicked
  | dropped

def Exit.Returned {ε α : Type} : Exit ε α → Prop
  | .done _ | .failed _ => True
  | .panicked | .dropped => False

structure Run (σ ω ε α : Type) where
  exit : Exit ε α
  state : σ
  events : List ω

def Future (σ ω ε α : Type) : Type := σ → Run σ ω ε α

namespace Future

variable {σ τ ω ε α β : Type}

protected def pure (value : α) : Future σ ω ε α := fun state =>
  { exit := .done value, state := state, events := [] }

protected def bind (first : Future σ ω ε α) (next : α → Future σ ω ε β) : Future σ ω ε β :=
  fun state =>
    match (first state).exit with
    | .done value =>
      { exit := (next value (first state).state).exit
        state := (next value (first state).state).state
        events := (first state).events ++ (next value (first state).state).events }
    | .failed error =>
      { exit := .failed error, state := (first state).state, events := (first state).events }
    | .panicked =>
      { exit := .panicked, state := (first state).state, events := (first state).events }
    | .dropped =>
      { exit := .dropped, state := (first state).state, events := (first state).events }

instance : Monad (Future σ ω ε) where
  pure := Future.pure
  bind := Future.bind

def fail (error : ε) : Future σ ω ε α := fun state =>
  { exit := .failed error, state := state, events := [] }

def abandon : Future σ ω ε α := fun state => { exit := .dropped, state := state, events := [] }

def crash : Future σ ω ε α := fun state => { exit := .panicked, state := state, events := [] }

def emit (event : ω) : Future σ ω ε Unit := fun state =>
  { exit := .done (), state := state, events := [event] }

def get : Future σ ω ε σ := fun state => { exit := .done state, state := state, events := [] }

def modify (change : σ → σ) : Future σ ω ε Unit := fun state =>
  { exit := .done (), state := change state, events := [] }

def ofExcept : Except ε α → Future σ ω ε α
  | .ok value => Future.pure value
  | .error error => fail error

def when (condition : Bool) (run : Future σ ω ε Unit) : Future σ ω ε Unit :=
  if condition then run else Future.pure ()

def whenSome (value : Option α) (run : α → Future σ ω ε Unit) : Future σ ω ε Unit :=
  match value with
  | some value => run value
  | none => Future.pure ()

/-- The result of a computation as a value, to be looked at before it is returned. -/
def attempt (run : Future σ ω ε α) : Future σ ω ε (Except ε α) := fun state =>
  { exit :=
      match (run state).exit with
      | .done value => .done (.ok value)
      | .failed error => .done (.error error)
      | .panicked => .panicked
      | .dropped => .dropped
    state := (run state).state
    events := (run state).events }

def catchUnwind (run : Future σ ω ε α) : Future σ ω ε (Option α) := fun state =>
  { exit :=
      match (run state).exit with
      | .done value => .done (some value)
      | .failed error => .failed error
      | .panicked => .done none
      | .dropped => .dropped
    state := (run state).state
    events := (run state).events }

/-- A scope with a destructor: `release` runs on every exit but the regular one. -/
def releasing (release : σ → σ) (run : Future σ ω ε α) : Future σ ω ε α := fun state =>
  { exit := (run state).exit
    state :=
      match (run state).exit with
      | .done _ => (run state).state
      | _ => release (run state).state
    events := (run state).events }

/-- Calls made one after the other, each from the state the one before it left on
whatever exit: all their events and the final state. -/
def history (calls : List (Future σ ω ε α)) (state : σ) : List ω × σ :=
  calls.foldl (fun reached call =>
    (reached.1 ++ (call reached.2).events, (call reached.2).state)) ([], state)

/-! ### Specifications over histories -/

/-- Started from `pre`, a returned value satisfies `post`, an error `fails`, and a panic
or a drop leaves `stops`. The assertions see all events up to their point. -/
def Spec (pre : List ω → σ → Prop) (run : Future σ ω ε α) (post : α → List ω → σ → Prop)
    (fails : ε → List ω → σ → Prop) (stops : List ω → σ → Prop) : Prop :=
  ∀ past state, pre past state →
    match (run state).exit with
    | .done value => post value (past ++ (run state).events) (run state).state
    | .failed error => fails error (past ++ (run state).events) (run state).state
    | .panicked | .dropped => stops (past ++ (run state).events) (run state).state

/-- The run keeps `inv` on every exit, and a returned value also satisfies `post`. -/
abbrev Triple (inv : List ω → σ → Prop) (run : Future σ ω ε α)
    (post : α → List ω → σ → Prop) : Prop :=
  Spec inv run (fun value past state => inv past state ∧ post value past state) (fun _ => inv) inv

abbrev Keeps (inv : List ω → σ → Prop) (run : Future σ ω ε α) : Prop :=
  Spec inv run (fun _ => inv) (fun _ => inv) inv

/-- From one assertion to another, whatever the exit. -/
abbrev Leads (pre inv : List ω → σ → Prop) (run : Future σ ω ε α) : Prop :=
  Spec pre run (fun _ => inv) (fun _ => inv) inv

section Rules

variable {pre pre' stops inv : List ω → σ → Prop} {post post' : α → List ω → σ → Prop}
  {fails fails' : ε → List ω → σ → Prop}

variable {run : Future σ ω ε α} {event : ω} {first : Future σ ω ε β} {next : β → Future σ ω ε α}
  {mid : β → List ω → σ → Prop}

theorem Spec.everywhere (spec : Spec pre run (fun _ => inv) (fun _ => inv) inv) (past : List ω)
    (state : σ) (holds : pre past state) : inv (past ++ (run state).events) (run state).state := by
  have kept := spec past state holds
  cases exit : (run state).exit <;> simpa only [exit] using kept

theorem Spec.returned (spec : Spec pre run (fun _ => inv) (fun _ => inv) stops) (past : List ω)
    (state : σ) (holds : pre past state) (returned : (run state).exit.Returned) :
    inv (past ++ (run state).events) (run state).state := by
  have ends := spec past state holds
  cases exit : (run state).exit with
  | done | failed =>
    rw [exit] at ends
    exact ends
  | panicked | dropped =>
    rw [exit] at returned
    cases returned

theorem Keeps.apply (keeps : Keeps inv run) {past : List ω} {state : σ} (holds : inv past state) :
    inv (past ++ (run state).events) (run state).state :=
  Spec.everywhere keeps past state holds

variable {stops' : List ω → σ → Prop}

theorem Spec.weaken (spec : Spec pre run post fails stops)
    (stronger : pre' ≤ pre)
    (returns : post ≤ post')
    (fails_to : fails ≤ fails')
    (stops_to : stops ≤ stops') :
    Spec pre' run post' fails' stops' := by
  intro past state holds
  have result := spec past state (stronger past state holds)
  cases exit : (run state).exit with
  | done value =>
    rw [exit] at result
    exact returns value _ _ result
  | failed error =>
    rw [exit] at result
    exact fails_to error _ _ result
  | panicked | dropped =>
    rw [exit] at result
    exact stops_to _ _ result

variable {outer : List ω → σ → Prop}

theorem Leads.weaken (leads : Leads pre inv run)
    (stronger : pre' ≤ pre)
    (leaves : inv ≤ outer) : Leads pre' outer run :=
  Spec.weaken leads stronger (fun _ => leaves) (fun _ => leaves) leaves

theorem Spec.before (spec : Spec pre run post fails stops)
    (stronger : pre' ≤ pre) :
    Spec pre' run post fails stops :=
  spec.weaken stronger le_rfl le_rfl le_rfl

theorem Spec.returning (spec : Spec pre run post fails stops)
    (returns : post ≤ post') :
    Spec pre run post' fails stops :=
  spec.weaken le_rfl returns le_rfl le_rfl

theorem Spec.leaving (spec : Spec pre run post fails stops)
    (fails_to : fails ≤ fails')
    (stops_to : stops ≤ stops') :
    Spec pre run post fails' stops' :=
  spec.weaken le_rfl le_rfl fails_to stops_to

theorem Spec.both (one : Spec pre run post fails stops) (other : Keeps inv run) :
    Spec (fun past state => pre past state ∧ inv past state) run
      (fun value past state => post value past state ∧ inv past state) fails stops := by
  intro past state holds
  have first := one past state holds.1
  have second := other past state holds.2
  cases exit : (run state).exit with
  | done value =>
    rw [exit] at first second
    exact ⟨first, second⟩
  | failed | panicked | dropped =>
    rw [exit] at first
    exact first

/-- A fact that follows from the precondition may be used about the run itself. -/
theorem Spec.assuming (fact : Prop) (known : ∀ past state, pre past state → fact)
    (spec : fact → Spec pre run post fails stops) : Spec pre run post fails stops :=
  fun past state holds => spec (known past state holds) past state holds

theorem and_le_left {extra : List ω → σ → Prop} :
    (fun past state => pre past state ∧ extra past state) ≤ pre := fun _ _ holds => holds.1

theorem Spec.besides {extra : List ω → σ → Prop} (spec : Spec pre run post fails stops) :
    Spec (fun past state => pre past state ∧ extra past state) run post fails stops :=
  spec.before and_le_left

theorem Spec.given {fact : Prop} (spec : fact → Spec pre run post fails stops) :
    Spec (fun past state => pre past state ∧ fact) run post fails stops :=
  fun past state holds => spec holds.2 past state holds.1

theorem spec_anything : Spec pre run (fun _ _ _ => True) (fun _ _ _ => True) fun _ _ => True := by
  intro past state _
  split <;> trivial

theorem spec_of_never : Spec (fun _ _ => False) run post fails stops := fun _ _ never => never.elim

theorem Triple.keeps (triple : Triple inv run post) : Keeps inv run :=
  triple.returning fun _ _ _ holds => holds.1

theorem Triple.weaken (triple : Triple inv run post)
    (returns : ∀ value past state, inv past state → post value past state →
      post' value past state) :
    Triple inv run post' :=
  triple.returning fun value past state holds =>
    ⟨holds.1, returns value past state holds.1 holds.2⟩

theorem Triple.leaving (triple : Triple inv run post)
    (drop : inv ≤ outer) :
    Spec inv run (fun value past state => inv past state ∧ post value past state)
      (fun _ => outer) outer :=
  .leaving triple (fun _ => drop) drop

theorem Keeps.leaving (keeps : Keeps inv run)
    (drop : inv ≤ outer) :
    Spec inv run (fun _ => inv) (fun _ => outer) outer :=
  .leaving keeps (fun _ => drop) drop

/-! ### Rules for the constructs -/

/-- What holds of a run that emits nothing may be said of the events before it. -/
theorem spec_of_silent (silent : ∀ state, (run state).events = [])
    (ends : ∀ past state, pre past state → match (run state).exit with
      | .done value => post value past (run state).state
      | .failed error => fails error past (run state).state
      | .panicked | .dropped => stops past (run state).state) : Spec pre run post fails stops := by
  intro past state holds
  rw [silent, append_nil]
  exact ends past state holds

theorem spec_pure {value : α} (good : pre ≤ post value) :
    Spec pre (pure value : Future σ ω ε α) post fails stops :=
  spec_of_silent (fun _ => rfl) good

theorem spec_fail {error : ε} (bad : pre ≤ fails error) :
    Spec pre (fail error : Future σ ω ε α) post fails stops :=
  spec_of_silent (fun _ => rfl) bad

theorem spec_crash (stopped : pre ≤ stops) :
    Spec pre (crash : Future σ ω ε α) post fails stops :=
  spec_of_silent (fun _ => rfl) stopped

theorem spec_abandon (stopped : pre ≤ stops) :
    Spec pre (abandon : Future σ ω ε α) post fails stops :=
  spec_of_silent (fun _ => rfl) stopped

theorem spec_get {post : σ → List ω → σ → Prop}
    (good : ∀ past state, pre past state → post state past state) :
    Spec pre (get : Future σ ω ε σ) post fails stops :=
  spec_of_silent (fun _ => rfl) good

theorem triple_get : Triple inv (get : Future σ ω ε σ) fun value _ state => value = state :=
  spec_get fun _ _ holds => ⟨holds, rfl⟩

theorem spec_modify {change : σ → σ} {post : Unit → List ω → σ → Prop}
    (good : ∀ past state, pre past state → post () past (change state)) :
    Spec pre (modify change : Future σ ω ε Unit) post fails stops :=
  spec_of_silent (fun _ => rfl) good

theorem spec_emit {post : Unit → List ω → σ → Prop}
    (good : ∀ past state, pre past state → post () (past ++ [event]) state) :
    Spec pre (emit event : Future σ ω ε Unit) post fails stops :=
  fun past state holds => good past state holds

theorem Spec.bind (begins : Spec pre first mid fails stops)
    (continues : ∀ value, Spec (mid value) (next value) post fails stops) :
    Spec pre (first >>= next) post fails stops := by
  intro past state holds
  have result := begins past state holds
  change match (Future.bind first next state).exit with
    | .done value => post value (past ++ (Future.bind first next state).events)
        (Future.bind first next state).state
    | .failed error => fails error (past ++ (Future.bind first next state).events)
        (Future.bind first next state).state
    | .panicked | .dropped => stops (past ++ (Future.bind first next state).events)
        (Future.bind first next state).state
  unfold Future.bind
  cases exit : (first state).exit with
  | done value =>
    rw [exit] at result
    have rest := continues value _ _ result
    rw [append_assoc] at rest
    exact rest
  | failed | panicked | dropped =>
    rw [exit] at result
    exact result

theorem Spec.through (mid : β → List ω → σ → Prop) (begins : Spec pre first mid fails stops)
    (continues : ∀ value, Spec (mid value) (next value) post fails stops) :
    Spec pre (first >>= next) post fails stops :=
  begins.bind continues

theorem Spec.skip {value : β} (continues : Spec pre (next value) post fails stops) :
    Spec pre ((pure value : Future σ ω ε β) >>= next) post fails stops :=
  continues

theorem Spec.map {value : β → α} (begins : Spec pre first (fun _ => inv) fails stops) :
    Spec pre (first >>= fun result => pure (value result)) (fun _ => inv) fails stops :=
  .bind begins fun _ => spec_pure le_rfl

theorem Spec.attempt (spec : Spec pre run post fails stops) {never : ε → List ω → σ → Prop} :
    Spec pre run.attempt (fun result past state => match result with
      | .ok value => post value past state
      | .error error => fails error past state) never stops := by
  intro past state holds
  have result := spec past state holds
  unfold Future.attempt
  cases exit : (run state).exit with
  | done | failed | panicked | dropped =>
    rw [exit] at result
    exact result

theorem Spec.catchUnwind (spec : Spec pre run post fails stops) :
    Spec pre run.catchUnwind (fun result past state => match result with
      | some value => post value past state
      | none => stops past state) fails stops := by
  intro past state holds
  have result := spec past state holds
  unfold Future.catchUnwind
  cases exit : (run state).exit with
  | done | failed | panicked | dropped =>
    rw [exit] at result
    exact result

/-- The destructor turns what an irregular exit leaves into what is required there. -/
theorem Spec.releasing {run : Future σ ω ε α} {release : σ → σ}
    {left : List ω → σ → Prop} {leftError : ε → List ω → σ → Prop}
    (spec : Spec pre run post leftError left)
    (failed : ∀ error past state, leftError error past state → fails error past (release state))
    (stopped : ∀ past state, left past state → stops past (release state)) :
    Spec pre (run.releasing release) post fails stops := by
  intro past state holds
  have result := spec past state holds
  unfold Future.releasing
  cases exit : (run state).exit with
  | done value =>
    rw [exit] at result
    exact result
  | failed error =>
    rw [exit] at result
    exact failed error _ _ result
  | panicked | dropped =>
    rw [exit] at result
    exact stopped _ _ result

theorem spec_ofExcept {result : Except ε α}
    (good : ∀ value, result = .ok value → pre ≤ post value)
    (bad : ∀ error, result = .error error → pre ≤ fails error) :
    Spec pre (ofExcept result : Future σ ω ε α) post fails stops := by
  cases result with
  | ok value => exact spec_pure (good value rfl)
  | error error => exact spec_fail (bad error rfl)

theorem Spec.result {value : β → Except ε α}
    (begins : Spec pre first (fun _ => inv) (fun _ => inv) stops) :
    Spec pre (first >>= fun result => ofExcept (value result)) (fun _ => inv)
      (fun _ => inv) stops :=
  .bind begins fun _ => spec_ofExcept (fun _ _ => le_rfl) fun _ _ => le_rfl

theorem spec_when {condition : Bool} {run : Future σ ω ε Unit} {post : Unit → List ω → σ → Prop}
    (run_spec : condition = true → Spec pre run post fails stops)
    (skip : condition = false → pre ≤ post ()) :
    Spec pre (when condition run) post fails stops := by
  cases condition with
  | true => exact run_spec rfl
  | false => exact spec_pure (skip rfl)

/-! ### Rules for kept assertions -/

theorem keeps_pure (value : α) : Keeps inv (pure value : Future σ ω ε α) := spec_pure le_rfl

theorem keeps_fail (error : ε) : Keeps inv (fail error : Future σ ω ε α) := spec_fail le_rfl

theorem keeps_get : Keeps inv (get : Future σ ω ε σ) := spec_get fun _ _ => id

theorem keeps_crash : Keeps inv (crash : Future σ ω ε α) := spec_crash le_rfl

theorem keeps_abandon : Keeps inv (abandon : Future σ ω ε α) := spec_abandon le_rfl

theorem keeps_ofExcept (result : Except ε α) : Keeps inv (ofExcept result : Future σ ω ε α) :=
  spec_ofExcept (fun _ _ _ _ => id) fun _ _ _ _ => id

theorem Keeps.bind (begins : Keeps inv first) (continues : ∀ value, Keeps inv (next value)) :
    Keeps inv (first >>= next) :=
  Spec.bind begins continues

/-- A fact about the value of a step, for the run after it. -/
theorem Triple.knowing {fact : β → Prop} (begins : Triple inv first fun value _ _ => fact value)
    (continues : ∀ value, fact value → Keeps inv (next value)) : Keeps inv (first >>= next) :=
  Spec.bind begins fun value => Spec.given (continues value)

theorem Spec.attemptAll (spec : Spec pre run (fun _ => inv) (fun _ => inv) stops) :
    Spec pre run.attempt (fun _ => inv) fails stops :=
  (Spec.attempt spec).returning fun result _ _ holds => by cases result <;> exact holds

theorem Keeps.attempt (keeps : Keeps inv run) : Keeps inv run.attempt := .attemptAll keeps

theorem Keeps.releasing {run : Future σ ω ε α} (keeps : Keeps inv run) {release : σ → σ}
    (released : ∀ past state, inv past state → inv past (release state)) :
    Keeps inv (run.releasing release) :=
  Spec.releasing keeps (fun _ => released) released

theorem history_nil (state : σ) :
    Future.history ([] : List (Future σ ω ε α)) state = ([], state) := rfl

theorem history_cons (call : Future σ ω ε α) (calls : List (Future σ ω ε α)) (state : σ) :
    Future.history (call :: calls) state =
      ((call state).events ++ (Future.history calls (call state).state).1,
        (Future.history calls (call state).state).2) := by
  have from_past : ∀ (past : List ω) (start : σ), calls.foldl (fun reached call =>
          (reached.1 ++ (call reached.2).events, (call reached.2).state)) (past, start) =
        (past ++ (Future.history calls start).1, (Future.history calls start).2) := by
    induction calls with
    | nil =>
      intro past start
      rw [foldl_nil, history_nil, append_nil]
    | cons next later ih =>
      intro past start
      unfold Future.history
      rw [foldl_cons, foldl_cons, ih, ih, nil_append, append_assoc]
  exact from_past _ _

theorem Keeps.history {calls : List (Future σ ω ε α)} (keeps : ∀ call ∈ calls, Keeps inv call)
    {state : σ} (holds : inv [] state) :
    inv (Future.history calls state).1 (Future.history calls state).2 := by
  have step : ∀ past start, inv past start →
      inv (past ++ (Future.history calls start).1) (Future.history calls start).2 := by
    induction calls with
    | nil =>
      intro past start started
      rw [history_nil, append_nil]
      exact started
    | cons call calls ih =>
      intro past start started
      have rest := ih (fun later member => keeps later (mem_cons_of_mem _ member)) _ _
        ((keeps call mem_cons_self).apply started)
      rw [append_assoc] at rest
      rw [history_cons]
      exact rest
  have reached := step [] state holds
  exact reached

theorem keeps_when {condition : Bool} {run : Future σ ω ε Unit}
    (keeps : condition = true → Keeps inv run) : Keeps inv (when condition run) :=
  spec_when keeps fun _ _ _ => id

theorem keeps_whenSome {value : Option β} {run : β → Future σ ω ε Unit}
    (keeps : ∀ inner, value = some inner → Keeps inv (run inner)) :
    Keeps inv (whenSome value run) := by
  cases value with
  | none => exact keeps_pure ()
  | some inner => exact keeps inner rfl

/-! ### Runs that return, and events they reach -/

/-- The run returns, with a value and in a state that satisfy `post`. -/
abbrev Returns (pre : List ω → σ → Prop) (run : Future σ ω ε α)
    (post : α → List ω → σ → Prop) : Prop :=
  Spec pre run post (fun _ _ _ => False) fun _ _ => False

/-- However the run ends, it has emitted the event by then. -/
abbrev Reaches (pre : List ω → σ → Prop) (run : Future σ ω ε α) (event : ω) : Prop :=
  Spec pre run (fun _ past _ => event ∈ past) (fun _ past _ => event ∈ past)
    fun past _ => event ∈ past

private theorem keeps_mem (event : ω) (run : Future σ ω ε α) :
    Keeps (fun past _ => event ∈ past) run := by
  intro past state found
  have stays : event ∈ past ++ (run state).events := mem_append_left _ found
  cases exit : (run state).exit <;> exact stays

theorem Reaches.bind (begins : Reaches pre first event) : Reaches pre (first >>= next) event :=
  Spec.bind begins fun value => keeps_mem event (next value)

theorem Returns.bind (begins : Returns pre first mid)
    (continues : ∀ value, Spec (mid value) (next value) post fails stops) :
    Spec pre (first >>= next) post fails stops :=
  .bind (begins.leaving (fun _ _ _ never => never.elim) fun _ _ never => never.elim) continues

theorem Returns.step {fact : β → Prop}
    (begins : Returns pre first fun value past state => mid value past state ∧ fact value)
    (continues : ∀ value, fact value → Spec (mid value) (next value) post fails stops) :
    Spec pre (first >>= next) post fails stops :=
  begins.bind fun value => .given (continues value)

theorem Reaches.attempt (reaches : Reaches pre run event) : Reaches pre run.attempt event :=
  .attemptAll reaches

theorem Reaches.catchUnwind (reaches : Reaches pre run event) : Reaches pre run.catchUnwind event :=
  (Spec.catchUnwind reaches).returning fun result _ _ holds => by cases result <;> exact holds

theorem Reaches.releasing {event : ω} {run : Future σ ω ε α} {release : σ → σ}
    (reaches : Reaches pre run event) : Reaches pre (run.releasing release) event :=
  Spec.releasing reaches (fun _ _ _ => id) fun _ _ => id

theorem reaches_emit (event : ω) : Reaches pre (emit event : Future σ ω ε Unit) event :=
  spec_emit fun _ _ _ => mem_append_right _ (mem_singleton_self event)

theorem Returns.attempt (returns : Returns pre run fun _ => inv) :
    Returns pre run.attempt fun result past state =>
      inv past state ∧ ∃ value, result = .ok value :=
  (Spec.attempt returns).returning fun result _ _ holds => by
    cases result with
    | ok value => exact ⟨holds, value, rfl⟩
    | error error => exact holds.elim

end Rules

end Future

end Bookie.Async
