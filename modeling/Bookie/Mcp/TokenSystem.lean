/-
The token store as a system of processes. Calls of any number of stores on one path
interleave step by step, and each may fail or crash at any step. A confirmed
revocation is final, an issued token is accepted until then, and no call loses what
another one stored.
-/

import Bookie.Mcp.Tokens

namespace Bookie.Mcp

open Policy Text List TokenMap

structure Issue where
  name : String
  permissions : TokenPermissions
  connectionAllowlist : List Uuid
  expiresAt : Option Int
  id : Uuid
  plaintext : String
  createdAt : Int
  deriving DecidableEq, Repr

def TokenSite.token (site : TokenSite) (issue : Issue) : McpToken where
  id := issue.id
  name := issue.name
  tokenHash := site.hashToken issue.plaintext
  permissions := issue.permissions
  connectionAllowlist := issue.connectionAllowlist
  createdAt := issue.createdAt
  expiresAt := issue.expiresAt
  revoked := false

inductive TokenCall where
  | issue (issue : Issue)
  | revoke (id : Uuid)
  | authenticate (plaintext : String)
  deriving DecidableEq, Repr

def TokenCall.change (site : TokenSite) (map : TokenMap) : TokenCall → Option TokenMap
  | .issue drawn => some (map.insert (site.token drawn))
  | .revoke id => some (map.revoke id)
  | .authenticate _ => none

inductive TokenAnswer where
  | issued (token : McpToken) (plaintext : String)
  | revoked
  | accepted (token : McpToken)
  | invalidToken
  | tokenExpired
  | failed (message : String)
  deriving DecidableEq, Repr

def TokenCall.done (site : TokenSite) : TokenCall → Option TokenAnswer
  | .issue drawn => some (.issued (site.token drawn) drawn.plaintext)
  | .revoke _ => some .revoked
  | .authenticate _ => none

/-- The search of `authenticate`, in whatever order the map gives its tokens. -/
def authenticateIn (site : TokenSite) (tokens : List McpToken) (plaintext : String) (now : Int) :
    TokenAnswer :=
  match tokens.find? fun token =>
      !token.revoked && hashesMatch token.tokenHash (site.hashToken plaintext) with
  | none => .invalidToken
  | some token =>
    match token.expiresAt with
    | some expires => if expires < now then .tokenExpired else .accepted token
    | none => .accepted token

/-! ### The system -/

/-- How far the call that holds the process lock has come. -/
inductive Stage where
  | locked
  | loaded (map : TokenMap)
  | staged (changed : TokenMap) (order : List McpToken) (name : Uuid) (json : Bytes) (written : Nat)
  | renamed

structure Holder where
  store : Nat
  call : TokenCall
  stage : Stage

/-- The file of the store, the temporary files by their names, the calls that wait for the
process lock with their stores, the call that holds it, and the cache of each store. -/
structure TokenSystem where
  file : Option StoreFile
  temporaries : Uuid → Option Bytes
  waiting : List (Nat × TokenCall)
  holder : Option Holder
  caches : Nat → List McpToken

/-- `faulted` is an operation of the lock, of the file system or of a cache's mutex that fails
under a call. -/
inductive TokenEvent where
  | called (call : TokenCall)
  | renamed (call : TokenCall) (order : List McpToken)
  | faulted (call : TokenCall) (message : String)
  | answered (call : TokenCall) (now : Int) (answer : TokenAnswer)

namespace TokenSystem

def start : TokenSystem where
  file := none
  temporaries := fun _ => none
  waiting := []
  holder := none
  caches := fun _ => []

def hold (system : TokenSystem) (holder : Holder) (stage : Stage) : TokenSystem :=
  { system with holder := some { holder with stage := stage } }

def release (system : TokenSystem) : TokenSystem := { system with holder := none }

def keepTemporary (system : TokenSystem) (name : Uuid) (bytes : Option Bytes) : TokenSystem :=
  { system with temporaries := Function.update system.temporaries name bytes }

def cache (system : TokenSystem) (store : Nat) (tokens : List McpToken) : TokenSystem :=
  { system with caches := Function.update system.caches store tokens }

end TokenSystem

inductive HolderStep (site : TokenSite) (system : TokenSystem) (holder : Holder) :
    List TokenEvent → TokenSystem → Prop
  | load {map : TokenMap} (locked : holder.stage = .locked)
      (loads : site.loadTokens system.file = .ok map) :
      HolderStep site system holder [] (system.hold holder (.loaded map))
  -- the cache is replaced and searched under its own mutex
  | authenticate {map : TokenMap} {plaintext : String} {order : List McpToken} (now : Int)
      (loaded : holder.stage = .loaded map) (asks : holder.call = .authenticate plaintext)
      (values : order.Perm map.tokens) :
      HolderStep site system holder
        [.answered holder.call now (authenticateIn site order plaintext now)]
        (system.release.cache holder.store order)
  | create {map changed : TokenMap} {order : List McpToken} {name : Uuid} {json : Bytes}
      (loaded : holder.stage = .loaded map) (changes : holder.call.change site map = some changed)
      (values : order.Perm changed.tokens) (prints : site.printed order = .ok json)
      (unused : system.temporaries name = none) :
      HolderStep site system holder []
        ((system.hold holder (.staged changed order name json 0)).keepTemporary name (some []))
  | write {changed : TokenMap} {order : List McpToken} {name : Uuid} {json : Bytes}
      {written : Nat} (more : Nat)
      (staged : holder.stage = .staged changed order name json written) :
      HolderStep site system holder []
        ((system.hold holder (.staged changed order name json (written + more))).keepTemporary name
          (some (json.take (written + more))))
  | rename {changed : TokenMap} {order : List McpToken} {name : Uuid} {json bytes : Bytes}
      {written : Nat} (staged : holder.stage = .staged changed order name json written)
      (whole : json.length ≤ written) (holds : system.temporaries name = some bytes) :
      HolderStep site system holder [.renamed holder.call order]
        { (system.hold holder .renamed).keepTemporary name none with
          file := some (site.written bytes) }
  | finish {answer : TokenAnswer} (now : Int) (tokens : List McpToken)
      (renamed : holder.stage = .renamed) (done : holder.call.done site = some answer) :
      HolderStep site system holder [.answered holder.call now answer]
        (system.release.cache holder.store tokens)
  | unreadable {message : String} (now : Int) (locked : holder.stage = .locked)
      (loads : site.loadTokens system.file = .error message) :
      HolderStep site system holder [.answered holder.call now (.failed message)] system.release
  | unprinted {map changed : TokenMap} {order : List McpToken} {message : String} (now : Int)
      (loaded : holder.stage = .loaded map) (changes : holder.call.change site map = some changed)
      (values : order.Perm changed.tokens) (prints : site.printed order = .error message) :
      HolderStep site system holder [.answered holder.call now (.failed message)] system.release
  | fault (now : Int) (message : String) :
      HolderStep site system holder
        [.faulted holder.call message, .answered holder.call now (.failed message)] system.release
  | faultCleaned {changed : TokenMap} {order : List McpToken} {name : Uuid} {json : Bytes}
      {written : Nat} (now : Int) (message : String)
      (staged : holder.stage = .staged changed order name json written) :
      HolderStep site system holder
        [.faulted holder.call message, .answered holder.call now (.failed message)]
        (system.release.keepTemporary name none)
  | crash : HolderStep site system holder [] system.release

inductive TokenStep (site : TokenSite) (system : TokenSystem) :
    List TokenEvent → TokenSystem → Prop
  | call (store : Nat) (call : TokenCall) :
      TokenStep site system [.called call]
        { system with waiting := (store, call) :: system.waiting }
  | lock {store : Nat} {call : TokenCall} {others : List (Nat × TokenCall)}
      (waits : system.waiting.Perm ((store, call) :: others)) (free : system.holder = none) :
      TokenStep site system []
        { system with waiting := others, holder := some ⟨store, call, .locked⟩ }
  | refuse {store : Nat} {call : TokenCall} {others : List (Nat × TokenCall)} (now : Int)
      (message : String) (waits : system.waiting.Perm ((store, call) :: others)) :
      TokenStep site system [.faulted call message, .answered call now (.failed message)]
        { system with waiting := others }
  | vanish {store : Nat} {call : TokenCall} {others : List (Nat × TokenCall)}
      (waits : system.waiting.Perm ((store, call) :: others)) :
      TokenStep site system [] { system with waiting := others }
  | proceed {holder : Holder} {events : List TokenEvent} {next : TokenSystem}
      (holds : system.holder = some holder) (step : HolderStep site system holder events next) :
      TokenStep site system events next
  -- `refresh_cache_if_stale`, without the lock
  | refresh (store : Nat) (tokens : List McpToken) :
      TokenStep site system [] (system.cache store tokens)

inductive TokenRun (site : TokenSite) : List TokenEvent → TokenSystem → Prop
  | start : TokenRun site [] .start
  | step {trace events : List TokenEvent} {system next : TokenSystem}
      (reached : TokenRun site trace system) (step : TokenStep site system events next) :
      TokenRun site (trace ++ events) next

/-! ### What a run keeps -/

def issues (trace : List TokenEvent) : List Issue :=
  trace.filterMap fun
    | .called (.issue drawn) => some drawn
    | _ => none

private theorem mem_issues {trace : List TokenEvent} {drawn : Issue} :
    drawn ∈ issues trace ↔ .called (.issue drawn) ∈ trace := by
  unfold issues
  rw [mem_filterMap]
  constructor
  · rintro ⟨event, found, same⟩
    split at same
    · cases same
      exact found
    · cases same
  · exact fun found => ⟨_, found, rfl⟩

/-- What the libraries give in a run: JSON that was written reads back, plaintexts are told
apart by their hashes, and what is drawn at random is neither drawn twice nor named by anyone
before it is stored. -/
structure Trusted (site : TokenSite) (trace : List TokenEvent) : Prop where
  readsBack : ∀ call order json, .renamed call order ∈ trace →
    site.toVecPretty order = .ok json → site.fromSlice json = .ok order
  hashes : ∀ first ∈ issues trace, ∀ second ∈ issues trace,
    site.hashToken first.plaintext = site.hashToken second.plaintext →
      first.plaintext = second.plaintext
  plaintexts : ((issues trace).map Issue.plaintext).Nodup
  ids : ((issues trace).map Issue.id).Nodup
  unguessed : ∀ before drawn order after, trace = before ++ .renamed (.issue drawn) order :: after →
    .called (.revoke drawn.id) ∉ before

/-- The tokens of the store against what happened. -/
structure Standing (site : TokenSite) (trace : List TokenEvent) (map : TokenMap) : Prop where
  origin : ∀ token ∈ map.tokens, ∃ drawn ∈ issues trace,
    token = { site.token drawn with revoked := token.revoked }
  asked : ∀ token ∈ map.tokens, token.revoked = true →
    ∃ order, .renamed (.revoke token.id) order ∈ trace
  kept : ∀ drawn now,
    .answered (.issue drawn) now (.issued (site.token drawn) drawn.plaintext) ∈ trace →
      drawn ∈ issues trace ∧ ∃ stored ∈ map.tokens, stored.id = drawn.id
  barred : ∀ id now, .answered (.revoke id) now .revoked ∈ trace →
    .called (.revoke id) ∈ trace ∧ ∀ token ∈ map.tokens, token.id = id → token.revoked = true

def TokenCall.Stored (map : TokenMap) : TokenCall → Prop
  | .issue drawn => ∃ stored ∈ map.tokens, stored.id = drawn.id
  | .revoke id => ∀ token ∈ map.tokens, token.id = id → token.revoked = true
  | .authenticate _ => True

/-- What is known of the call that holds the lock. Until it renames, the store is as it was
loaded. -/
structure HolderSound (site : TokenSite) (trace : List TokenEvent) (system : TokenSystem)
    (holder : Holder) : Prop where
  called : .called holder.call ∈ trace
  loaded : ∀ map, holder.stage = .loaded map → site.loadTokens system.file = .ok map
  staged : ∀ changed order name json written,
    holder.stage = .staged changed order name json written →
      (∃ map, site.loadTokens system.file = .ok map ∧
          holder.call.change site map = some changed) ∧
        order.Perm changed.tokens ∧ site.printed order = .ok json ∧
        system.temporaries name = some (json.take written)
  renamed : holder.stage = .renamed →
    ∃ map, site.loadTokens system.file = .ok map ∧ holder.call.Stored map

structure SystemSound (site : TokenSite) (trace : List TokenEvent) (system : TokenSystem) :
    Prop where
  waits : ∀ entry ∈ system.waiting, .called entry.2 ∈ trace
  holds : ∀ holder, system.holder = some holder → HolderSound site trace system holder
  store : ∃ map, site.loadTokens system.file = .ok map ∧ Standing site trace map

private theorem Trusted.earlier {site : TokenSite} {trace events : List TokenEvent}
    (trusted : Trusted site (trace ++ events)) : Trusted site trace := by
  have later : ∀ {event : TokenEvent}, event ∈ trace → event ∈ trace ++ events :=
    mem_append_left events
  have split : issues (trace ++ events) = issues trace ++ issues events := filterMap_append
  have part : (issues trace).Sublist (issues (trace ++ events)) := by
    rw [split]
    exact sublist_append_left _ _
  exact
    { readsBack := fun call order json found => trusted.readsBack call order json (later found)
      hashes := fun first inFirst second inSecond =>
        trusted.hashes first (part.subset inFirst) second (part.subset inSecond)
      plaintexts := trusted.plaintexts.sublist (part.map _)
      ids := trusted.ids.sublist (part.map _)
      unguessed := fun before drawn order after same =>
        trusted.unguessed before drawn order (after ++ events)
          (by rw [same, append_assoc, cons_append]) }

section Sound

variable {site : TokenSite} {trace events : List TokenEvent} {system next : TokenSystem}
  {holder : Holder} {map : TokenMap}

private theorem Standing.grow (standing : Standing site trace map)
    (silent : ∀ call now answer, .answered call now answer ∈ events →
      call.done site ≠ some answer) :
    Standing site (trace ++ events) map := by
  have later : ∀ {event : TokenEvent}, event ∈ trace → event ∈ trace ++ events :=
    mem_append_left events
  have drawnLater : ∀ {drawn : Issue}, drawn ∈ issues trace → drawn ∈ issues (trace ++ events) :=
    fun found => mem_issues.mpr (later (mem_issues.mp found))
  exact
    { origin := fun token found => (standing.origin token found).imp fun drawn holds =>
        ⟨drawnLater holds.1, holds.2⟩
      asked := fun token found revoked => (standing.asked token found revoked).imp fun _ => later
      kept := by
        intro drawn now found
        rcases mem_append.mp found with found | new
        · exact (standing.kept _ _ found).imp_left drawnLater
        · exact absurd rfl (silent _ _ _ new)
      barred := by
        intro id now found
        rcases mem_append.mp found with found | new
        · exact (standing.barred _ _ found).imp_left later
        · exact absurd rfl (silent _ _ _ new) }

private theorem Standing.congr {other : TokenMap} (standing : Standing site trace map)
    (same : ∀ token, token ∈ other.tokens ↔ token ∈ map.tokens) : Standing site trace other where
  origin := fun token found => standing.origin token ((same token).mp found)
  asked := fun token found => standing.asked token ((same token).mp found)
  kept := fun drawn now found => (standing.kept drawn now found).imp_right
    fun ⟨stored, inside, isId⟩ => ⟨stored, (same stored).mpr inside, isId⟩
  barred := fun id now found => (standing.barred id now found).imp_right
    fun all token inside => all token ((same token).mp inside)

/-- An inserted token cannot be one that was revoked before: nobody named its id. -/
private theorem Standing.insert (standing : Standing site trace map) {drawn : Issue}
    (isDrawn : drawn ∈ issues trace)
    (unnamed : .called (.revoke drawn.id) ∉ trace) :
    Standing site trace (map.insert (site.token drawn)) where
  origin := by
    intro token found
    rcases mem_insert.mp found with rfl | found
    · exact ⟨drawn, isDrawn, rfl⟩
    · exact standing.origin token found.1
  asked := by
    intro token found revoked
    rcases mem_insert.mp found with rfl | found
    · cases revoked
    · exact standing.asked token found.1 revoked
  kept := by
    intro issue now answered
    obtain ⟨isIssue, stored, found, isId⟩ := standing.kept issue now answered
    refine ⟨isIssue, ?_⟩
    by_cases same : stored.id = drawn.id
    · exact ⟨site.token drawn, mem_insert.mpr (.inl rfl), same.symm.trans isId⟩
    · exact ⟨stored, mem_insert.mpr (.inr ⟨found, same⟩), isId⟩
  barred := by
    intro id now answered
    obtain ⟨named, all⟩ := standing.barred id now answered
    refine ⟨named, fun token found isId => ?_⟩
    rcases mem_insert.mp found with rfl | found
    · subst isId
      exact absurd named unnamed
    · exact all token found.1 isId

private theorem TokenMap.mem_revoke {id : Uuid} {token : McpToken} :
    token ∈ (map.revoke id).tokens ↔
      ∃ other ∈ map.tokens,
        (if other.id = id then { other with revoked := true } else other) = token :=
  mem_map

private theorem Standing.revoke (standing : Standing site trace map) {id : Uuid}
    {order : List McpToken}
    (named : .renamed (.revoke id) order ∈ trace) : Standing site trace (map.revoke id) where
  origin := by
    intro token found
    obtain ⟨other, inside, rfl⟩ := mem_revoke.mp found
    obtain ⟨drawn, isDrawn, same⟩ := standing.origin other inside
    refine ⟨drawn, isDrawn, ?_⟩
    split
    · rw [same]
    · exact same
  asked := by
    intro token found revoked
    obtain ⟨other, inside, rfl⟩ := mem_revoke.mp found
    by_cases isId : other.id = id
    · rw [if_pos isId]
      exact ⟨order, isId ▸ named⟩
    · rw [if_neg isId] at revoked ⊢
      exact standing.asked other inside revoked
  kept := by
    intro drawn now answered
    obtain ⟨isDrawn, stored, inside, isId⟩ := standing.kept drawn now answered
    refine ⟨isDrawn, _, mem_revoke.mpr ⟨stored, inside, rfl⟩, ?_⟩
    split
    · exact isId
    · exact isId
  barred := by
    intro other now answered
    obtain ⟨isNamed, all⟩ := standing.barred other now answered
    refine ⟨isNamed, fun token found isId => ?_⟩
    obtain ⟨stored, inside, rfl⟩ := mem_revoke.mp found
    by_cases same : stored.id = id
    · rw [if_pos same]
    · rw [if_neg same] at isId ⊢
      exact all stored inside isId

/-- The change a staged call is about to make stands, and is stored. -/
private theorem SystemSound.changes (sound : SystemSound site trace system)
    (held : system.holder = some holder)
    {changed : TokenMap} {order : List McpToken} {name : Uuid} {json : Bytes} {written : Nat}
    (stage : holder.stage = .staged changed order name json written)
    (trusted : Trusted site (trace ++ [.renamed holder.call order])) :
    Standing site (trace ++ [.renamed holder.call order]) changed ∧
      holder.call.Stored changed := by
  have mine := sound.holds holder held
  obtain ⟨⟨map, loads, change⟩, _⟩ := mine.staged _ _ _ _ _ stage
  obtain ⟨same, sameLoads, standing⟩ := sound.store
  rw [loads] at sameLoads
  cases sameLoads
  have grown : Standing site (trace ++ [.renamed holder.call order]) map :=
    standing.grow fun _ _ _ new => by simp at new
  have called : .called holder.call ∈ trace ++ [.renamed holder.call order] :=
    mem_append_left _ mine.called
  cases isCall : holder.call with
  | authenticate plaintext =>
    rw [isCall] at change
    cases change
  | issue drawn =>
    rw [isCall] at change called grown
    cases change
    refine ⟨grown.insert (mem_issues.mpr called) fun named => ?_, site.token drawn,
      mem_insert.mpr (.inl rfl), rfl⟩
    refine trusted.unguessed trace drawn order [] (by rw [isCall]) ?_
    simpa using named
  | revoke id =>
    rw [isCall] at change grown
    cases change
    refine ⟨grown.revoke (mem_append_right _ (mem_singleton_self _)), fun token found isId => ?_⟩
    obtain ⟨other, _, rfl⟩ := mem_revoke.mp found
    by_cases same : other.id = id
    · rw [if_pos same]
    · rw [if_neg same] at isId
      exact absurd isId same

private theorem TokenCall.Stored.congr {call : TokenCall} {other : TokenMap}
    (stored : call.Stored map)
    (same : ∀ token, token ∈ other.tokens ↔ token ∈ map.tokens) : call.Stored other := by
  cases call with
  | issue drawn =>
    obtain ⟨token, found, isId⟩ := stored
    exact ⟨token, (same token).mpr found, isId⟩
  | revoke id => exact fun token found => stored token ((same token).mp found)
  | authenticate plaintext => trivial

private theorem Standing.confirm (standing : Standing site trace map) {now : Int} {call : TokenCall}
    {answer : TokenAnswer} (called : .called call ∈ trace) (done : call.done site = some answer)
    (stored : call.Stored map) : Standing site (trace ++ [.answered call now answer]) map := by
  have later : ∀ {event : TokenEvent}, event ∈ trace →
      event ∈ trace ++ [.answered call now answer] := mem_append_left _
  have same : issues (trace ++ [.answered call now answer]) = issues trace := by
    rw [issues, filterMap_append]
    exact append_nil _
  exact
    { origin := by rw [same]; exact standing.origin
      asked := fun token found revoked => (standing.asked token found revoked).imp fun _ => later
      kept := by
        intro drawn time found
        rw [same]
        rcases mem_append.mp found with found | new
        · exact standing.kept _ _ found
        · cases mem_singleton.mp new
          exact ⟨mem_issues.mpr called, stored⟩
      barred := by
        intro id time found
        rcases mem_append.mp found with found | new
        · exact (standing.barred _ _ found).imp_left later
        · cases mem_singleton.mp new
          exact ⟨later called, stored⟩ }

private theorem Standing.failed (standing : Standing site trace map) {call : TokenCall} {now : Int}
    {message : String} : Standing site (trace ++ [.answered call now (.failed message)]) map := by
  refine standing.grow fun _ _ _ new done => ?_
  cases mem_singleton.mp new
  cases call <;> cases done

private theorem Standing.faulted (standing : Standing site trace map) {call : TokenCall} {now : Int}
    {message : String} :
    Standing site (trace ++ [.faulted call message, .answered call now (.failed message)]) map := by
  rw [append_cons]
  exact (standing.grow fun _ _ _ new => by simp at new).failed

private theorem SystemSound.proceed (sound : SystemSound site trace system)
    (held : system.holder = some holder) (step : HolderStep site system holder events next)
    (trusted : Trusted site (trace ++ events)) : SystemSound site (trace ++ events) next := by
  obtain ⟨map, loads, standing⟩ := sound.store
  have mine := sound.holds holder held
  have called : .called holder.call ∈ trace ++ events := mem_append_left _ mine.called
  have waits : ∀ entry ∈ system.waiting, .called entry.2 ∈ trace ++ events := fun entry waits =>
    mem_append_left _ (sound.waits entry waits)
  have silently : Standing site (trace ++ []) map := by
    rwa [append_nil]
  cases step with
  | load locked read =>
    refine ⟨waits, fun _ isLater => ?_, map, loads, silently⟩
    cases isLater
    refine ⟨called, fun _ same => ?_, nofun, nofun⟩
    cases same
    exact read
  | create loaded changes values prints unused =>
    refine ⟨waits, fun _ isLater => ?_, map, loads, silently⟩
    cases isLater
    refine ⟨called, nofun, fun _ _ _ _ _ same => ?_, nofun⟩
    cases same
    exact ⟨⟨_, mine.loaded _ loaded, changes⟩, values, prints, Function.update_self ..⟩
  | write more staged =>
    obtain ⟨changes, values, prints, _⟩ := mine.staged _ _ _ _ _ staged
    refine ⟨waits, fun _ isLater => ?_, map, loads, silently⟩
    cases isLater
    refine ⟨called, nofun, fun _ _ _ _ _ same => ?_, nofun⟩
    cases same
    exact ⟨changes, values, prints, Function.update_self ..⟩
  | @rename changed order name json bytes written staged whole holds =>
    obtain ⟨_, values, isPrinted, content⟩ := mine.staged _ _ _ _ _ staged
    obtain ⟨prints, small⟩ := site.printed_eq_ok isPrinted
    rw [content, take_of_length_le whole] at holds
    cases holds
    -- the file that is renamed reads back as the changed tokens
    obtain ⟨stands, stored⟩ := sound.changes held staged trusted
    have same : ∀ token, token ∈ (collect order).tokens ↔ token ∈ changed.tokens :=
      fun token => (mem_collect ((values.map _).nodup_iff.mpr changed.distinct)).trans
        values.mem_iff
    have read : site.loadTokens (some (site.written json)) = .ok (.collect order) :=
      site.loadTokens_written small (trusted.readsBack holder.call order json
        (mem_append_right _ (mem_singleton_self _)) prints)
    refine ⟨waits, fun _ isLater => ?_, _, read, stands.congr same⟩
    cases isLater
    exact ⟨called, nofun, nofun, fun _ => ⟨_, read, stored.congr same⟩⟩
  | authenticate now loaded asks values =>
    refine ⟨waits, nofun, map, loads, standing.grow fun _ _ _ new => ?_⟩
    cases mem_singleton.mp new
    rw [asks]
    nofun
  | finish now tokens renamed done =>
    obtain ⟨same, sameLoads, stored⟩ := mine.renamed renamed
    rw [loads] at sameLoads
    cases sameLoads
    exact ⟨waits, nofun, map, loads, standing.confirm mine.called done stored⟩
  | unreadable | unprinted => exact ⟨waits, nofun, map, loads, standing.failed⟩
  | fault | faultCleaned => exact ⟨waits, nofun, map, loads, standing.faulted⟩
  | crash => exact ⟨waits, nofun, map, loads, silently⟩

/-- What others do beside the call that holds the lock. -/
private theorem HolderSound.later (sound : HolderSound site trace system holder)
    (file : next.file = system.file) (temporaries : next.temporaries = system.temporaries) :
    HolderSound site (trace ++ events) next holder where
  called := mem_append_left _ sound.called
  loaded := by rw [file]; exact sound.loaded
  staged := by rw [file, temporaries]; exact sound.staged
  renamed := by rw [file]; exact sound.renamed

private theorem SystemSound.step (sound : SystemSound site trace system)
    (step : TokenStep site system events next) (trusted : Trusted site (trace ++ events)) :
    SystemSound site (trace ++ events) next := by
  obtain ⟨map, loads, standing⟩ := sound.store
  have silently : Standing site (trace ++ []) map := by
    rwa [append_nil]
  have waits : ∀ entry ∈ system.waiting, .called entry.2 ∈ trace ++ events := fun entry waits =>
    mem_append_left _ (sound.waits entry waits)
  have holds : next.file = system.file → next.temporaries = system.temporaries →
      ∀ holder, system.holder = some holder → HolderSound site (trace ++ events) next holder :=
    fun file temporaries holder held => (sound.holds holder held).later file temporaries
  cases step with
  | proceed held step => exact sound.proceed held step trusted
  | call store call =>
    refine ⟨fun entry found => ?_, holds rfl rfl, map, loads,
      standing.grow fun _ _ _ new => by simp at new⟩
    rcases mem_cons.mp found with rfl | found
    · exact mem_append_right _ (mem_singleton_self _)
    · exact waits entry found
  | lock among free =>
    refine ⟨fun entry found => waits entry (among.mem_iff.mpr (mem_cons_of_mem _ found)),
      fun holder held => ?_, map, loads, silently⟩
    cases held
    exact ⟨waits _ (among.mem_iff.mpr mem_cons_self), nofun, nofun, nofun⟩
  | refuse now message among =>
    exact ⟨fun entry found => waits entry (among.mem_iff.mpr (mem_cons_of_mem _ found)),
      holds rfl rfl, map, loads, standing.faulted⟩
  | vanish among =>
    exact ⟨fun entry found => waits entry (among.mem_iff.mpr (mem_cons_of_mem _ found)),
      holds rfl rfl, map, loads, silently⟩
  | refresh store tokens => exact ⟨waits, holds rfl rfl, map, loads, silently⟩

private theorem TokenRun.sound (run : TokenRun site trace system) (trusted : Trusted site trace) :
    SystemSound site trace system := by
  induction run with
  | start => exact ⟨nofun, nofun, .empty, rfl, nofun, nofun, nofun, nofun⟩
  | step reached step ih => exact (ih trusted.earlier).step step trusted

/-! ### Answers -/

private theorem fault_of_answered {asked call : TokenCall} {now time : Int} {answer : TokenAnswer}
    {message : String}
    (answered : .answered asked now answer ∈
      [TokenEvent.faulted call message, .answered call time (.failed message)]) :
    .faulted asked message ∈
        [TokenEvent.faulted call message, .answered call time (.failed message)] ∧
      answer = .failed message := by
  rcases mem_cons.mp answered with same | found
  · cases same
  · cases mem_singleton.mp found
    exact ⟨mem_cons_self, rfl⟩

/-- An answer of `authenticate` comes from a search of the stored tokens, or an operation
failed under it. -/
private theorem SystemSound.answers (sound : SystemSound site trace system)
    (step : TokenStep site system events next) {plaintext : String} {now : Int}
    {answer : TokenAnswer}
    (answered : .answered (.authenticate plaintext) now answer ∈ events) :
    (∃ map order, Standing site trace map ∧ order.Perm map.tokens ∧
        answer = authenticateIn site order plaintext now) ∨
      ∃ message, .faulted (.authenticate plaintext) message ∈ events ∧
        answer = .failed message := by
  obtain ⟨map, loads, standing⟩ := sound.store
  cases step with
  | call store call => simp at answered
  | refuse _ message among => exact .inr ⟨message, fault_of_answered answered⟩
  | @proceed holder _ _ held step =>
    cases step with
    | @authenticate _ _ order _ loaded asks values =>
      rw [(sound.holds holder held).loaded _ loaded] at loads
      cases loads
      have same := mem_singleton.mp answered
      rw [asks] at same
      cases same
      exact .inl ⟨_, order, standing, values, rfl⟩
    | finish _ tokens renamed done =>
      injection mem_singleton.mp answered with isCall
      rw [← isCall] at done
      cases done
    -- a store that was only ever written by these calls is readable
    | unreadable _ locked fails =>
      rw [fails] at loads
      cases loads
    | unprinted _ loaded changes =>
      injection mem_singleton.mp answered with isCall
      rw [← isCall] at changes
      cases changes
    | fault _ message | faultCleaned _ message => exact .inr ⟨message, fault_of_answered answered⟩
    | rename staged whole holds => simp at answered
    | _ => cases answered
  | _ => cases answered

private theorem accepted_of_authenticateIn {order : List McpToken} {plaintext : String} {now : Int}
    {token : McpToken} (accepts : authenticateIn site order plaintext now = .accepted token) :
    token ∈ order ∧ token.revoked = false := by
  unfold authenticateIn at accepts
  cases found : order.find? fun token =>
      !token.revoked && hashesMatch token.tokenHash (site.hashToken plaintext) with
  | none => simp [found] at accepts
  | some other =>
    have live := find?_some found
    have same : other = token := by
      simp only [found] at accepts
      split at accepts
      · split at accepts
        · cases accepts
        · exact TokenAnswer.accepted.inj accepts
      · exact TokenAnswer.accepted.inj accepts
    subst same
    exact ⟨mem_of_find?_eq_some found, by simpa using (Bool.and_eq_true_iff.mp live).1⟩

private theorem authenticateIn_eq {order : List McpToken} {drawn : Issue} {now : Int}
    (stored : site.token drawn ∈ order)
    (only : ∀ token ∈ order, token.revoked = false →
      token.tokenHash = site.hashToken drawn.plaintext →
      token = site.token drawn)
    (live : ∀ expires, drawn.expiresAt = some expires → now ≤ expires) :
    authenticateIn site order drawn.plaintext now = .accepted (site.token drawn) := by
  unfold authenticateIn
  cases found : order.find? fun token =>
      !token.revoked && hashesMatch token.tokenHash (site.hashToken drawn.plaintext) with
  | none =>
    have missed := find?_eq_none.mp found (site.token drawn) stored
    exact absurd (Bool.and_eq_true_iff.mpr ⟨rfl, hashesMatch_iff.mpr rfl⟩) missed
  | some token =>
    have matched := Bool.and_eq_true_iff.mp (find?_some found :)
    have same := only token (mem_of_find?_eq_some found) (by simpa using matched.1)
      (hashesMatch_iff.mp matched.2)
    subst same
    change (match drawn.expiresAt with
      | some expires =>
        if expires < now then TokenAnswer.tokenExpired else .accepted (site.token drawn)
      | none => .accepted (site.token drawn)) = _
    cases expires : drawn.expiresAt with
    | none => rfl
    | some time => exact if_neg (Int.not_lt.mpr (live time expires))

/-- What holds at every step of every run. A token whose revocation was confirmed is not
accepted again; a token whose issue was confirmed is accepted with its plaintext, unless an
operation fails under the call, until a revocation of it reaches the store or it expires; and
the store keeps every confirmed token and every confirmed revocation. -/
theorem token_revocation_final (run : TokenRun site trace system)
    (step : TokenStep site system events next) (trusted : Trusted site (trace ++ events)) :
    (∀ plaintext now token id confirmed,
      .answered (.authenticate plaintext) now (.accepted token) ∈ events →
      .answered (.revoke id) confirmed .revoked ∈ trace → token.id ≠ id) ∧
    (∀ now answer drawn confirmed,
      .answered (.authenticate drawn.plaintext) now answer ∈ events →
      (∀ message, .faulted (.authenticate drawn.plaintext) message ∉ events) →
      .answered (.issue drawn) confirmed (.issued (site.token drawn) drawn.plaintext) ∈ trace →
      (∀ order, .renamed (.revoke drawn.id) order ∉ trace) →
      (∀ expires, drawn.expiresAt = some expires → now ≤ expires) →
      answer = .accepted (site.token drawn)) ∧
    ∃ map, site.loadTokens next.file = .ok map ∧ Standing site (trace ++ events) map := by
  have sound := run.sound trusted.earlier
  refine ⟨?_, ?_, (sound.step step trusted).store⟩
  · intro plaintext now token id confirmed answered revoked
    rcases sound.answers step answered with
      ⟨map, order, standing, values, accepts⟩ | ⟨_, _, failed⟩
    · obtain ⟨found, live⟩ := accepted_of_authenticateIn accepts.symm
      intro same
      rw [(standing.barred _ _ revoked).2 token (values.mem_iff.mp found) same] at live
      cases live
    · cases failed
  intro now answer drawn confirmed answered faultless issued unrevoked live
  obtain ⟨map, order, standing, values, same⟩ :=
    (sound.answers step answered).resolve_right fun ⟨message, faulted, _⟩ =>
      faultless message faulted
  -- a stored token that is not revoked is what was drawn for it
  have original : ∀ token ∈ order, token.revoked = false →
      ∃ other ∈ issues trace, token = site.token other := by
    intro token found isLive
    obtain ⟨other, isIssue, isToken⟩ := standing.origin token (values.mem_iff.mp found)
    rw [isLive] at isToken
    exact ⟨other, isIssue, isToken⟩
  obtain ⟨isDrawn, stored, found, isId⟩ := standing.kept _ _ issued
  have inOrder := values.mem_iff.mpr found
  have isLive : stored.revoked = false := by
    by_contra revoked
    obtain ⟨order, asked⟩ := standing.asked stored found (by simpa using revoked)
    rw [isId] at asked
    exact unrevoked order asked
  obtain ⟨other, isIssue, rfl⟩ := original stored inOrder isLive
  have earlier := trusted.earlier
  cases inj_on_of_nodup_map earlier.ids isIssue isDrawn isId
  rw [same]
  refine authenticateIn_eq inOrder (fun token found isLive isHash => ?_) live
  obtain ⟨another, isAnother, rfl⟩ := original token found isLive
  rw [inj_on_of_nodup_map earlier.plaintexts isAnother isDrawn
    (earlier.hashes another isAnother _ isDrawn isHash)]

end Sound

def agentIssue : Issue where
  name := "agent"
  permissions := .readOnly
  connectionAllowlist := []
  expiresAt := none
  id := 1
  plaintext := "tp_6b86b273ff34fce19d6b804eff5a3f5747ada4ea"
  createdAt := 0

/-- What `to_vec_pretty` writes for the store with that token. -/
def agentJson : Bytes :=
  utf8 ("[\n  \x7b\n    \"id\": \"00000000-0000-0000-0000-000000000001\",\n" ++
    "    \"name\": \"agent\",\n    \"token_hash\": \"") ++
  hexEncode (Chain.sha256 (utf8 agentIssue.plaintext)) ++
  utf8 ("\",\n    \"permissions\": \"read_only\",\n    \"connection_allowlist\": [],\n" ++
    "    \"created_at\": \"1970-01-01T00:00:00Z\",\n    \"revoked\": false\n  \x7d\n]")

def agentToken : McpToken where
  id := agentIssue.id
  name := agentIssue.name
  tokenHash := hexEncode (Chain.sha256 (utf8 agentIssue.plaintext))
  permissions := agentIssue.permissions
  connectionAllowlist := agentIssue.connectionAllowlist
  createdAt := agentIssue.createdAt
  expiresAt := agentIssue.expiresAt
  revoked := false

/-- A JSON library that knows the empty store and the one with the agent's token. -/
def agentSite : TokenSite where
  path := "/home/agent/.config/tablepro/mcp-tokens.json"
  effectiveUid := 1000
  toVecPretty := fun tokens =>
    if tokens = [] then .ok (utf8 "[]")
    else if tokens = [agentToken] then .ok agentJson
    else .error "another store"
  fromSlice := fun bytes =>
    if bytes = utf8 "[]" then .ok []
    else if bytes = agentJson then .ok [agentToken]
    else .error "another text"
  sha256 := Chain.sha256

private theorem agentJson_small : agentJson.length ≤ maxTokenStoreBytes := by
  decide +kernel

private theorem agentJson_ne_empty : agentJson ≠ utf8 "[]" := by
  decide +kernel

private theorem agentSite_printed : agentSite.printed [agentToken] = .ok agentJson := by
  have prints : agentSite.toVecPretty [agentToken] = .ok agentJson := by
    unfold agentSite
    dsimp only
    rw [if_neg (cons_ne_nil _ _), if_pos rfl]
  unfold TokenSite.printed
  rw [prints]
  exact if_neg (Nat.not_lt.mpr agentJson_small)

private theorem agentSite_reads : agentSite.fromSlice agentJson = .ok [agentToken] := by
  unfold agentSite
  dsimp only
  rw [if_neg agentJson_ne_empty, if_pos rfl]

/-- One store issues a token, and another one accepts it while a third one waits to revoke it. -/
theorem agent_token_accepted : ∃ trace system events next, TokenRun agentSite trace system ∧
    TokenStep agentSite system events next ∧ Trusted agentSite (trace ++ events) ∧
    .called (.revoke agentToken.id) ∈ trace ∧
    .answered (.authenticate agentIssue.plaintext) 1 (.accepted agentToken) ∈ events := by
  have called : TokenRun agentSite _ _ := .step .start (.call 0 (.issue agentIssue))
  have locked := called.step (.lock (.refl _) rfl)
  have loaded := locked.step (.proceed rfl (.load rfl rfl))
  have created := loaded.step (.proceed rfl (@HolderStep.create _ _ _ _ _ [agentToken] 0 _ rfl rfl
    (.refl _) agentSite_printed rfl))
  have written := created.step (.proceed rfl (.write agentJson.length rfl))
  have renamed := written.step (.proceed rfl (.rename rfl (Nat.le_add_left _ _) rfl))
  have issued := renamed.step (.proceed rfl (.finish 0 [agentToken] rfl rfl))
  have doomed := issued.step (.call 2 (.revoke agentToken.id))
  have asked := doomed.step (.call 1 (.authenticate agentIssue.plaintext))
  have entered := asked.step (.lock (.refl _) rfl)
  have whole : agentJson.take (0 + agentJson.length) = agentJson :=
    take_of_length_le (Nat.le_add_left _ _)
  have read : agentSite.loadTokens (some (agentSite.written
      (agentJson.take (0 + agentJson.length)))) = .ok (.collect [agentToken]) := by
    rw [whole]
    exact agentSite.loadTokens_written agentJson_small agentSite_reads
  have ready := entered.step (.proceed rfl (.load rfl read))
  have final := token_revocation_final ready (.proceed rfl (.authenticate 1 rfl rfl (.refl _)))
  refine ⟨_, _, _, _, ready, .proceed rfl (.authenticate 1 rfl rfl (.refl _)), ?trusted, by simp,
    mem_singleton.mpr (congrArg _ ((final ?trusted).2.1 1 _ agentIssue 0 (mem_singleton_self _)
      (by simp) (by simp) (by simp) nofun).symm)⟩
  refine ⟨?_, ?_, ?_, ?_, ?_⟩
  · intro call order json found prints
    simp only [nil_append, cons_append, mem_cons, reduceCtorEq,
      TokenEvent.renamed.injEq, not_mem_nil, or_false, false_or] at found
    rw [found.2] at prints ⊢
    have same : agentSite.toVecPretty [agentToken] = .ok agentJson :=
      (agentSite.printed_eq_ok agentSite_printed).1
    rw [same] at prints
    cases prints
    exact agentSite_reads
  · intro first isFirst second isSecond _
    simp [issues] at isFirst isSecond
    rw [isFirst, isSecond]
  · simp [issues]
  · simp [issues]
  intro before drawn order after split named
  rcases before with _ | ⟨first, _ | ⟨second, rest⟩⟩
  · simp at split
  · obtain ⟨rfl, _⟩ := cons.inj split
    simp at named
  · have tail : _ = rest ++ .renamed (.issue drawn) order :: after :=
      (cons.inj (cons.inj split).2).2
    have inside := mem_append_right rest
      (mem_cons_self : .renamed (.issue drawn) order ∈ .renamed (.issue drawn) order :: after)
    rw [← tail] at inside
    simp at inside

end Bookie.Mcp
