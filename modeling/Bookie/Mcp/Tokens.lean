/-
The tokens of agents. A call takes the process lock, loads the file and, if it changes
a token, writes all of them to a temporary file that is renamed over the store. It
may fail or crash between two of these steps.
-/

import Bookie.Chain.Sha256
import Bookie.Policy.AuditEvent
import Bookie.Text.Codec

namespace Bookie.Mcp

open Chain Policy Text List

inductive TokenPermissions where
  | readOnly
  | readWrite
  deriving DecidableEq, Repr

/-- Times are in nanoseconds, and a hash is its hexadecimal text. -/
structure McpToken where
  id : Uuid
  name : String
  tokenHash : Bytes
  permissions : TokenPermissions
  connectionAllowlist : List Uuid
  createdAt : Int
  expiresAt : Option Int
  revoked : Bool
  deriving DecidableEq, Repr

/-- The comparison looks at every byte. -/
def hashesMatch (stored candidate : Bytes) : Bool :=
  if stored.length != candidate.length then false
  else (stored.zip candidate).foldl
    (fun difference pair => difference ||| (pair.1 ^^^ pair.2)) 0 == 0

theorem hashesMatch_iff {stored candidate : Bytes} :
    hashesMatch stored candidate = true ↔ stored = candidate := by
  have folds : ∀ (left right : Bytes) (start : UInt8), left.length = right.length →
      ((left.zip right).foldl (fun difference pair => difference ||| (pair.1 ^^^ pair.2)) start =
          0 ↔
        start = 0 ∧ left = right) := by
    intro left
    induction left with
    | nil =>
      intro right start same
      cases length_eq_zero_iff.mp same.symm
      simp
    | cons byte left ih =>
      intro right start same
      cases right with
      | nil => cases same
      | cons other right =>
        rw [zip_cons_cons, foldl_cons, ih right _ (Nat.succ.inj same),
          UInt8.or_eq_zero_iff, UInt8.xor_eq_zero_iff, cons.injEq, and_assoc]
  unfold hashesMatch
  split
  · rename_i differs
    refine ⟨nofun, fun same => ?_⟩
    rw [same] at differs
    simp at differs
  · rename_i same
    rw [beq_iff_eq, folds stored candidate 0 (by simpa using same)]
    exact and_iff_right rfl

structure TokenMap where
  tokens : List McpToken
  distinct : (tokens.map McpToken.id).Nodup

namespace TokenMap

def empty : TokenMap := ⟨[], nodup_nil⟩

def insert (map : TokenMap) (token : McpToken) : TokenMap where
  tokens := token :: map.tokens.filter fun other => other.id != token.id
  distinct := by
    rw [map_cons, nodup_cons]
    refine ⟨fun member => ?_, map.distinct.sublist (filter_sublist.map _)⟩
    obtain ⟨other, found, same⟩ := mem_map.mp member
    simpa [same] using (mem_filter.mp found).2

def revoke (map : TokenMap) (id : Uuid) : TokenMap where
  tokens := map.tokens.map fun token =>
    if token.id = id then { token with revoked := true } else token
  distinct := by
    have same : ∀ token : McpToken,
        (if token.id = id then { token with revoked := true } else token).id = token.id := by
      intro token
      split <;> rfl
    rw [map_map]
    simpa only [Function.comp_def, same] using map.distinct

/-- A later token takes the place of an earlier one with its id. -/
def collect (tokens : List McpToken) : TokenMap := tokens.foldl insert empty

theorem mem_insert {map : TokenMap} {token other : McpToken} :
    other ∈ (map.insert token).tokens ↔
      other = token ∨ other ∈ map.tokens ∧ other.id ≠ token.id := by
  simp [insert]

theorem mem_collect {tokens : List McpToken} (distinct : (tokens.map McpToken.id).Nodup)
    {token : McpToken} : token ∈ (collect tokens).tokens ↔ token ∈ tokens := by
  have folds : ∀ (tokens : List McpToken) (map : TokenMap), (tokens.map McpToken.id).Nodup →
      (∀ token ∈ tokens, ∀ other ∈ map.tokens, other.id ≠ token.id) →
      (token ∈ (tokens.foldl insert map).tokens ↔ token ∈ tokens ∨ token ∈ map.tokens) := by
    intro tokens
    induction tokens with
    | nil => intro map _ _; simp
    | cons first tokens ih =>
      intro map distinct apart
      obtain ⟨fresh, distinct⟩ := nodup_cons.mp distinct
      have others : ∀ other ∈ map.tokens, other.id ≠ first.id := apart first mem_cons_self
      rw [foldl_cons, ih _ distinct, mem_insert, mem_cons]
      · constructor
        · rintro (found | rfl | found)
          · exact .inl (.inr found)
          · exact .inl (.inl rfl)
          · exact .inr found.1
        rintro ((rfl | found) | found)
        · exact .inr (.inl rfl)
        · exact .inl found
        · exact .inr (.inr ⟨found, others token found⟩)
      intro later isLater other found
      rcases mem_insert.mp found with rfl | found
      · exact fun same => fresh (same ▸ mem_map_of_mem isLater)
      · exact apart later (mem_cons_of_mem _ isLater) other found.1
  rw [collect, folds tokens empty distinct fun _ _ _ found => by cases found]
  exact or_iff_left not_mem_nil

end TokenMap

structure StoreFile where
  bytes : Bytes
  isFile : Bool
  uid : Nat
  mode : Nat

/-- The store's path and owner, the JSON library and the hash function. -/
structure TokenSite where
  path : String
  effectiveUid : Nat
  toVecPretty : List McpToken → Except String Bytes
  fromSlice : Bytes → Except String (List McpToken)
  sha256 : Bytes → Bytes

def maxTokenStoreBytes : Nat := 1024 * 1024

namespace TokenSite

variable (site : TokenSite)

def hashToken (plaintext : String) : Bytes := hexEncode (site.sha256 (utf8 plaintext))

def tokenStoreSizeError : String :=
  site.path ++ " exceeds the maximum token store size of " ++ toString maxTokenStoreBytes ++
    " bytes"

def validateOpenedFile (path : String) (file : StoreFile) : Except String Unit :=
  if !file.isFile then .error (path ++ " must be a regular file")
  else if file.uid != site.effectiveUid then
    .error (path ++ " must be owned by the current user")
  else if file.mode % 0o10000 != 0o600 then
    .error (path ++ " must have mode 0600 and be accessible only by its owner")
  else .ok ()

def loadTokens : Option StoreFile → Except String TokenMap
  | none => .ok .empty
  | some file => do
      site.validateOpenedFile site.path file
      if maxTokenStoreBytes < file.bytes.length then .error site.tokenStoreSizeError
      else
        match site.fromSlice file.bytes with
        | .error error => .error (site.path ++ " is not a readable token store: " ++ error)
        | .ok tokens => .ok (.collect tokens)

/-- What `persist_tokens` checks before it makes a file. -/
def printed (tokens : List McpToken) : Except String Bytes :=
  match site.toVecPretty tokens with
  | .error error => .error error
  | .ok json =>
    if maxTokenStoreBytes < json.length then .error site.tokenStoreSizeError else .ok json

theorem printed_eq_ok {tokens : List McpToken} {json : Bytes}
    (prints : site.printed tokens = .ok json) :
    site.toVecPretty tokens = .ok json ∧ json.length ≤ maxTokenStoreBytes := by
  unfold printed at prints
  split at prints
  · cases prints
  rename_i text isText
  split at prints
  · cases prints
  rename_i small
  cases prints
  exact ⟨isText, Nat.not_lt.mp small⟩

def written (bytes : Bytes) : StoreFile :=
  { bytes := bytes, isFile := true, uid := site.effectiveUid, mode := 0o600 }

theorem loadTokens_written {bytes : Bytes} {tokens : List McpToken}
    (small : bytes.length ≤ maxTokenStoreBytes) (reads : site.fromSlice bytes = .ok tokens) :
    site.loadTokens (some (site.written bytes)) = .ok (.collect tokens) := by
  simp [loadTokens, validateOpenedFile, written, reads, Nat.not_lt.mpr small, bind, Except.bind]

end TokenSite

end Bookie.Mcp
