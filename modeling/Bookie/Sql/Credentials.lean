/-
Statements that carry credentials. The history keeps no text in which one of them is
recognised, in the statements between semicolons and in routine bodies, four deep.
-/

import Bookie.Sql.Lex
import Mathlib.Data.List.TakeWhile

namespace Bookie.Sql.Credentials

open Text List

def maxBodyDepth : Nat := 4

def secretObjects : List String :=
  ["USER", "ROLE", "LOGIN", "SERVER", "SUBSCRIPTION", "CREDENTIAL", "KEY", "CERTIFICATE", "MAPPING",
    "COLLECTION", "CONNECTION"]

def secretWords : List String := ["IDENTIFIED", "SECRET", "PASSPHRASE", "REQUIREPASS", "MASTERAUTH"]

def secretProcedures : List String :=
  ["SP_ADDLOGIN", "SP_PASSWORD", "SP_ADDLINKEDSRVLOGIN", "SP_ADDAPPROLE", "SP_SETAPPROLE",
    "SP_APPROLEPASSWORD", "SP_CONTROL_DBMASTERKEY_PASSWORD"]

def namePositions : List String := ["TABLE", "INTO", "VIEW", "REFERENCES"]

def blockOpeners : List String := ["BEGIN", "THEN", "ELSE", "LOOP", "ATOMIC"]

def carriers (driverId : String) : List String :=
  if driverId = "postgres" then
    ["dblink", "dblink_connect", "dblink_connect_u", "dblink_exec", "pgp_sym_encrypt",
      "pgp_sym_decrypt", "pgp_sym_encrypt_bytea", "pgp_sym_decrypt_bytea", "encrypt", "decrypt",
      "encrypt_iv", "decrypt_iv", "crypt", "hmac"]
  else if driverId = "mysql" then
    ["password", "old_password", "aes_encrypt", "aes_decrypt", "des_encrypt", "des_decrypt",
      "encode", "decode", "encrypt"]
  else if driverId = "mssql" then
    ["encryptbypassphrase", "decryptbypassphrase", "openrowset", "opendatasource", "pwdencrypt",
      "pwdcompare"]
  else if driverId = "clickhouse" then
    ["s3", "s3cluster", "url", "mysql", "postgresql", "remote", "remotesecure", "azureblobstorage",
      "hdfs", "odbc", "jdbc", "mongodb", "redis", "encrypt", "decrypt", "trydecrypt",
      "aes_encrypt_mysql", "aes_decrypt_mysql"]
  else []

inductive Token where
  | word (text : List Char)
  | text (text : List Char)
  | body (text : List Char)
  | punct (c : Char)
  deriving DecidableEq

def toAsciiUppercase (text : List Char) : List Char := text.map Char.toUpper

def eqIgnoreAsciiCase (known : String) (text : List Char) : Bool :=
  toAsciiUppercase known.toList == toAsciiUppercase text

def Token.word? : Token → Option (List Char)
  | .word spelling => some spelling
  | _ => none

def Token.isWord (known : String) (token : Token) : Bool :=
  token.word?.any (eqIgnoreAsciiCase known)

/-- The token of a quoted text or comment; nothing if it is not closed. -/
def spanToken (span : List Char) (reachesEnd : Bool) (driverId : String) : Option (Option Token) :=
  if startsWith "--" span || (driverId == "mysql" && startsWith "#" span) then some none
  else if startsWith "/*" span then
    let comment := span.drop 2
    if ['*', '/'].isSuffixOf comment then
      let body := comment.take (comment.length - 2)
      some (if driverId == "mysql" && startsWith "!" body then
        some (.body (body.dropWhile fun c => c == '!' || c.isDigit)) else none)
    else none
  else if startsWith "$" span then
    ((span.drop 1).findIdx? (· == '$')).bind fun close =>
      let tag := span.take (close + 2)
      if tag.length * 2 ≤ span.length && tag.isSuffixOf span then
        some (some (.body ((span.drop tag.length).take (span.length - tag.length * 2))))
      else none
  else
    (span.dropWhile fun c => c == 'E' || c == 'e').head?.bind fun quote =>
      let closing := if quote = '[' then ']' else quote
      if 2 ≤ span.length && span.getLast? == some closing && !(reachesEnd && span.length == 1) then
        some (some (if quote = '\'' then .text span else .word span))
      else none

section Reading

-- Unicode's letters and digits
variable (alphanumeric : Char → Bool) (driverId : String)

def startsWord (c : Char) : Bool := alphanumeric c || c == '_' || c == '@' || c == '#'

/-- The tokens of the text, with `skip` characters still to be stepped over. -/
def lexFrom : List Char → (skip : Nat) → Option (List Token)
  | [], _ => some []
  | _ :: rest, skip + 1 => lexFrom rest skip
  | c :: rest, 0 =>
    if isWhitespace c then lexFrom rest 0
    else
      match (skipSpan (c :: rest) driverId).filter (0 < ·) with
      | some length =>
        (spanToken ((c :: rest).take length) (length == (c :: rest).length) driverId).bind
          fun token => (lexFrom rest (length - 1)).map (token.toList ++ ·)
      | none =>
        if startsWord alphanumeric c then
          let word := c :: rest.takeWhile fun next => startsWord alphanumeric next || next == '$'
          (lexFrom rest (word.length - 1)).map (.word word :: ·)
        else (lexFrom rest 0).map (.punct c :: ·)

def lex (text : List Char) : Option (List Token) := lexFrom alphanumeric driverId text 0

end Reading

def opener (token : Token) : Bool := blockOpeners.any token.isWord

def secretObjectHead (tokens : List Token) : Bool :=
  (((tokens.takeWhile (· != .punct '(')).filterMap Token.word?).take 6).any fun word =>
    secretObjects.any fun object => eqIgnoreAsciiCase object word

def redisSecret (words : List (List Char)) : Bool :=
  let word (place : Nat) : String := String.ofList (words.getD place [])
  if word 0 = "AUTH" then true
  else if word 0 = "ACL" then word 1 = "SETUSER"
  else if word 0 = "CONFIG" then
    word 1 = "SET" && ["REQUIREPASS", "MASTERAUTH", "MASTERUSER"].contains (word 2)
  else if word 0 = "MIGRATE" ∨ word 0 = "HELLO" then
    words.any fun word => word == "AUTH".toList || word == "AUTH2".toList
  else false

def namesPassword (words : List (List Char)) : Bool :=
  words.any fun word => (find "PASSWORD".toList word).isSome ||
    secretWords.contains (String.ofList word)

def secretStatement (tokens : List Token) (driverId : String) : Bool :=
  let words := (tokens.filterMap Token.word?).map toAsciiUppercase
  match words.head? with
  | none => false
  | some first =>
    let first := String.ofList first
    if driverId = "redis" then redisSecret words
    else if driverId = "mongodb" then
      words.any fun word =>
        ["CREATEUSER", "UPDATEUSER", "CHANGEUSERPASSWORD"].contains (String.ofList word)
    else if first = "CREATE" ∨ first = "ALTER" then
      secretObjectHead tokens && (namesPassword words ||
        tokens.any fun token => match token with | .text _ => true | _ => false)
    else if ["SET", "CHANGE", "START", "GRANT", "OPEN"].contains first then namesPassword words
    else if first = "CLONE" then words.any (· == "IDENTIFIED".toList)
    else if first = "EXEC" ∨ first = "EXECUTE" then
      namesPassword words || words.any fun word => secretProcedures.contains (String.ofList word)
    else false

def wordBefore (tokens : List Token) (place back : Nat) : Option (List Char) :=
  if back ≤ place then (tokens[place - back]?).bind Token.word? else none

def namesAnObject (tokens : List Token) (place : Nat) : Bool :=
  match wordBefore tokens place 1 with
  | none => false
  | some before =>
    namePositions.any (eqIgnoreAsciiCase · before) ||
      (eqIgnoreAsciiCase "ON" before && (tokens.take place).any (·.isWord "INDEX"))

def carrierCallAt (tokens : List Token) (place : Nat) (word : List Char) (driverId : String) :
    Bool :=
  tokens[place + 1]? == some (.punct '(') && (carriers driverId).any (eqIgnoreAsciiCase · word) &&
    !namesAnObject tokens place

def routineBodyAt (tokens : List Token) (place : Nat) (driverId : String) : Bool :=
  let isBefore (back : Nat) (known : String) : Bool :=
    ((wordBefore tokens place back).map toAsciiUppercase) == some known.toList
  driverId == "postgres" &&
    (isBefore 1 "DO" || isBefore 1 "EXECUTE" || (isBefore 3 "DO" && isBefore 2 "LANGUAGE") ||
      (isBefore 1 "AS" && (tokens.take place).any fun token =>
        token.isWord "FUNCTION" || token.isWord "PROCEDURE"))

/-- A connection string with a password, or an address with one. -/
def secretText (text : List Char) : Bool :=
  let lower := text.map Char.toLower
  (["password=", "pwd=", "passwd=", "password =", "pwd ="].any fun key =>
      (find key.toList lower).isSome) ||
    lower.tails.any fun rest =>
      startsWith "://" rest &&
        (let authority := (rest.drop 3).takeWhile fun c => ! ['/', '\'', '"', ' '].contains c
        authority.contains '@' && (authority.takeWhile (· != '@')).contains ':')

def undouble : List Char → List Char
  | '\'' :: '\'' :: rest => '\'' :: undouble rest
  | c :: rest => c :: undouble rest
  | [] => []

def unquote (text : List Char) : List Char :=
  let inner := if startsWith "E" text || startsWith "e" text then text.drop 1 else text
  undouble (if startsWith "'" inner && ['\''].isSuffixOf (inner.drop 1) then
    (inner.drop 1).dropLast else inner)

section Carrying

-- how a body is looked at
variable (within : List Char → Bool)

def tokenCarries (tokens : List Token) (driverId : String) (place : Nat) : Token → Bool
  | .text text =>
    secretText text || (routineBodyAt tokens place driverId && within (unquote text))
  | .body body => within body
  | .word word => carrierCallAt tokens place word driverId
  | .punct _ => false

def statementCarries (tokens : List Token) (driverId : String) : Bool :=
  secretStatement (tokens.dropWhile opener) driverId ||
    tokens.zipIdx.any fun entry => tokenCarries within tokens driverId entry.2 entry.1

def tokensCarry (tokens : List Token) (driverId : String) : Bool :=
  (tokens.splitOn (.punct ';')).any fun statement => statementCarries within statement driverId

end Carrying

section Texts

variable (alphanumeric : Char → Bool) (driverId : String)

/-- What a body carries; `left` is the depth that is left up to `maxBodyDepth`. -/
def bodyCarries : (left : Nat) → List Char → Bool
  | 0, _ => false
  | left + 1, body => (lex alphanumeric driverId body).any fun tokens =>
    tokensCarry (bodyCarries left) tokens driverId

def carriesCredentials (sql : List Char) : Bool :=
  match lex alphanumeric driverId sql with
  | some tokens => tokensCarry (bodyCarries alphanumeric driverId maxBodyDepth) tokens driverId
  | none => true

end Texts

def maxQueryBytes : Nat := 1024 * 1024

/-- What decides about an entry; the other columns are stored with it. -/
structure NewEntry where
  query : List Char
  driverId : String
  deriving DecidableEq

inductive StorageError where
  | tooLarge (got limit : Nat)
  | database
  deriving DecidableEq

/-- The answer and the stored entries; `inserted` is the database's answer to the INSERT. -/
def record (alphanumeric : Char → Bool) (history : List NewEntry) (entry : NewEntry)
    (inserted : Except StorageError Nat) : Except StorageError (Option Nat) × List NewEntry :=
  if maxQueryBytes < (encode entry.query).length then
    (.error (.tooLarge (encode entry.query).length maxQueryBytes), history)
  else if carriesCredentials alphanumeric entry.driverId entry.query then (.ok none, history)
  else
    match inserted with
    | .error error => (.error error, history)
    | .ok id => (.ok (some id), history ++ [entry])

def bodyAt (tokens : List Token) (driverId : String) (place : Nat) : Option (List Char) :=
  match tokens[place]? with
  | some (.body body) => some body
  | some (.text text) => if routineBodyAt tokens place driverId then some (unquote text) else none
  | _ => none

/-- A statement among the others of its text. -/
structure Layer where
  before : List (List Token)
  statement : List Token
  after : List (List Token)

section Layers

variable (alphanumeric : Char → Bool) (driverId : String)

def Layer.Reads (layer : Layer) (text : List Char) : Prop :=
  ∃ tokens, lex alphanumeric driverId text = some tokens ∧
    tokens.splitOn (.punct ';') = layer.before ++ layer.statement :: layer.after

/-- The statement stands in bodies inside each other; the outermost comes first, each with the
place of its body. -/
inductive Nested (inner : Layer) : List (Layer × Nat) → List Char → Prop where
  | here {text : List Char} (reads : inner.Reads alphanumeric driverId text) : Nested inner [] text
  | within {text body : List Char} {outer : Layer} {place : Nat} {layers : List (Layer × Nat)}
    (reads : outer.Reads alphanumeric driverId text)
    (holds : bodyAt outer.statement driverId place = some body)
    (inside : Nested inner layers body) : Nested inner ((outer, place) :: layers) text

/-- Another statement of the layer is caught. -/
def Layer.othersCarry (layer : Layer) (left : Nat) : Bool :=
  (layer.before ++ layer.after).any fun statement =>
    statementCarries (bodyCarries alphanumeric driverId left) statement driverId

/-- The statement is caught whatever the body at the place holds. -/
def Layer.besides (layer : Layer) (left place : Nat) : Bool :=
  secretStatement (layer.statement.dropWhile opener) driverId ||
    layer.statement.zipIdx.any fun entry =>
      tokenCarries (fun body => entry.2 != place && bodyCarries alphanumeric driverId left body)
        layer.statement driverId entry.2 entry.1

/-- Something in the text is caught besides the inner statement. -/
def caughtElsewhere (inner : Layer) : (left : Nat) → List (Layer × Nat) → Bool
  | left, [] => inner.othersCarry alphanumeric driverId left
  | 0, (outer, place) :: _ =>
    outer.othersCarry alphanumeric driverId 0 || outer.besides alphanumeric driverId 0 place
  | left + 1, (outer, place) :: layers =>
    outer.othersCarry alphanumeric driverId (left + 1) ||
      outer.besides alphanumeric driverId (left + 1) place || caughtElsewhere inner left layers

variable {alphanumeric driverId}

private theorem tokensCarry_layer {layer : Layer} {left : Nat} {tokens : List Token}
    (cut : tokens.splitOn (.punct ';') = layer.before ++ layer.statement :: layer.after) :
    tokensCarry (bodyCarries alphanumeric driverId left) tokens driverId = true ↔
      statementCarries (bodyCarries alphanumeric driverId left) layer.statement driverId = true ∨
        layer.othersCarry alphanumeric driverId left = true := by
  rw [tokensCarry, cut, Layer.othersCarry, any_append, any_append, any_cons]
  simp only [Bool.or_eq_true]
  exact or_left_comm

private theorem tokenCarries_body {tokens : List Token} {place : Nat} {body : List Char}
    {token : Token}
    (found : tokens[place]? = some token) (holds : bodyAt tokens driverId place = some body)
    (within : List Char → Bool) :
    tokenCarries within tokens driverId place token = true ↔
      tokenCarries (fun _ => false) tokens driverId place token = true ∨ within body = true := by
  rw [bodyAt, found] at holds
  cases token with
  | word | punct => cases holds
  | body text =>
    cases holds
    simp [tokenCarries]
  | text text =>
  dsimp only at holds
  split at holds
  · rename_i isBody
    cases holds
    simp [tokenCarries, isBody]
  · cases holds

/-- A statement is caught by one of its tokens other than the body, or by the body. -/
private theorem statementCarries_body {layer : Layer} {place left : Nat} {body : List Char}
    (holds : bodyAt layer.statement driverId place = some body) :
    statementCarries (bodyCarries alphanumeric driverId left) layer.statement driverId = true ↔
      layer.besides alphanumeric driverId left place = true ∨
        bodyCarries alphanumeric driverId left body = true := by
  obtain ⟨own, found⟩ : ∃ own, layer.statement[place]? = some own := by
    cases found : layer.statement[place]? with
    | none =>
      rw [bodyAt, found] at holds
      cases holds
    | some own => exact ⟨own, rfl⟩
  have others : ∀ entry ∈ layer.statement.zipIdx,
      tokenCarries (bodyCarries alphanumeric driverId left) layer.statement driverId entry.2
          entry.1 = true ↔
        tokenCarries (fun body => entry.2 != place && bodyCarries alphanumeric driverId left body)
          layer.statement driverId entry.2 entry.1 = true ∨
          entry.2 = place ∧ bodyCarries alphanumeric driverId left body = true := by
    intro entry member
    by_cases same : entry.2 = place
    · have isOwn := mk_mem_zipIdx_iff_getElem?.mp member
      rw [same] at isOwn ⊢
      simpa using tokenCarries_body isOwn holds (bodyCarries alphanumeric driverId left)
    · have other : (entry.2 != place) = true := bne_iff_ne.mpr same
      simp [same, other]
  rw [statementCarries, Layer.besides, Bool.or_eq_true, Bool.or_eq_true, any_eq_true,
    any_eq_true, or_assoc]
  refine or_congr Iff.rfl ⟨?_, ?_⟩
  · rintro ⟨entry, member, carries⟩
    rcases (others entry member).mp carries with besides | ⟨-, inside⟩
    · exact .inl ⟨entry, member, besides⟩
    · exact .inr inside
  rintro (⟨entry, member, besides⟩ | inside)
  · exact ⟨entry, member, (others entry member).mpr (.inl besides)⟩
  · have member : (own, place) ∈ layer.statement.zipIdx :=
      mk_mem_zipIdx_iff_getElem?.mpr found
    exact ⟨_, member, (others _ member).mpr (.inr ⟨rfl, inside⟩)⟩

variable {layers : List (Layer × Nat)}

private theorem nested_carries {inner : Layer} {text : List Char}
    (nested : Nested alphanumeric driverId inner layers text) (left : Nat) :
    bodyCarries alphanumeric driverId (left + 1) text = true ↔
      layers.length ≤ left ∧ statementCarries (bodyCarries alphanumeric driverId
          (left - layers.length)) inner.statement driverId = true ∨
        caughtElsewhere alphanumeric driverId inner left layers = true := by
  induction nested generalizing left with
  | here reads =>
    obtain ⟨tokens, read, cut⟩ := reads
    rw [bodyCarries, read, Option.any_some, tokensCarry_layer cut, caughtElsewhere]
    simp
  | @within text body outer place layers reads holds inside ih =>
    obtain ⟨tokens, read, cut⟩ := reads
    rw [bodyCarries, read, Option.any_some, tokensCarry_layer cut, statementCarries_body holds]
    cases left with
    | zero =>
      rw [bodyCarries, caughtElsewhere]
      simp [or_comm]
    | succ left =>
      rw [caughtElsewhere]
      grind

private theorem Nested.lexed {inner : Layer} {text : List Char}
    (nested : Nested alphanumeric driverId inner layers text) :
    carriesCredentials alphanumeric driverId text =
      bodyCarries alphanumeric driverId (maxBodyDepth + 1) text := by
  cases nested with
  | here reads | within reads _ _ =>
    obtain ⟨tokens, read, -⟩ := reads
    rw [carriesCredentials, bodyCarries, read]
    rfl

private theorem opener_word {token : Token} (opens : opener token = true) :
    ∃ spelling, token = .word spelling ∧
      toAsciiUppercase spelling ∈ blockOpeners.map String.toList := by
  obtain ⟨known, member, isKnown⟩ := any_eq_true.mp opens
  cases token with
  | word spelling =>
    refine ⟨spelling, rfl, mem_map.mpr ⟨known, member, ?_⟩⟩
    have upper : ∀ known ∈ blockOpeners, toAsciiUppercase known.toList = known.toList := by decide
    rw [← upper known member]
    exact beq_iff_eq.mp isKnown
  | text spelling | body spelling | punct c => cases isKnown

/-- A secret statement of SQL starts with no block opener. -/
private theorem secret_dropWhile (takesSql : driverId ≠ "redis" ∧ driverId ≠ "mongodb")
    {secret : List Token} (flagged : secretStatement secret driverId = true) :
    secret.dropWhile opener = secret := by
  cases secret with
  | nil => rfl
  | cons token rest =>
  refine dropWhile_cons_of_neg fun opens => ?_
  obtain ⟨spelling, rfl, first⟩ := opener_word opens
  have words : ((Token.word spelling :: rest).filterMap Token.word?).map toAsciiUppercase =
      toAsciiUppercase spelling :: (rest.filterMap Token.word?).map toAsciiUppercase := rfl
  rw [secretStatement, words, head?_cons] at flagged
  dsimp only at flagged
  rw [if_neg takesSql.1, if_neg takesSql.2] at flagged
  generalize toAsciiUppercase spelling = upper at first flagged
  simp only [blockOpeners, map_cons, map_nil, mem_cons, not_mem_nil, or_false] at first
  rcases first with rfl | rfl | rfl | rfl | rfl <;> cases flagged

private theorem statementCarries_block (takesSql : driverId ≠ "redis" ∧ driverId ≠ "mongodb")
    {surrounding secret : List Token} {opening : Token} (opens : opener opening = true)
    (flagged : secretStatement secret driverId = true) (within : List Char → Bool) :
    statementCarries within (surrounding ++ opening :: secret) driverId = true ↔
      surrounding.all opener = true ∨
        secretStatement (surrounding.dropWhile opener ++ opening :: secret) driverId = true ∨
        ∃ entry ∈ (surrounding ++ opening :: secret).zipIdx,
          tokenCarries within (surrounding ++ opening :: secret) driverId entry.2 entry.1 =
            true := by
  rw [statementCarries, dropWhile_append]
  by_cases openers : surrounding.all opener = true
  · have none : surrounding.dropWhile opener = [] :=
      dropWhile_eq_nil_iff.mpr (all_eq_true.mp openers)
    rw [none, dropWhile_cons_of_pos opens, secret_dropWhile takesSql flagged]
    simp [flagged, openers]
  have some_ : (surrounding.dropWhile opener).isEmpty = false := by
    rw [isEmpty_eq_false_iff]
    intro none
    exact openers (all_eq_true.mpr (dropWhile_eq_nil_iff.mp none))
  rw [some_]
  simp [openers]

/-- **Blocks and bodies.** For a driver that takes SQL, a secret statement behind some tokens
and a block opener is caught exactly if it is at most four bodies deep and every token before
the last opener is an opener, too, or if something else is caught: the tokens from the first on
that is no opener, one of its tokens by itself, or another part of the text. What is caught is
not stored. -/
theorem blocks_caught_iff {alphanumeric : Char → Bool} {driverId : String}
    (takesSql : driverId ≠ "redis" ∧ driverId ≠ "mongodb") {surrounding secret : List Token}
    {opening : Token} (opens : opener opening = true)
    (flagged : secretStatement secret driverId = true) {before after : List (List Token)}
    {layers : List (Layer × Nat)} {text : List Char}
    (nested : Nested alphanumeric driverId ⟨before, surrounding ++ opening :: secret, after⟩ layers
      text) :
    (carriesCredentials alphanumeric driverId text = true ↔
      layers.length ≤ maxBodyDepth ∧
          (surrounding.all opener = true ∨
            secretStatement (surrounding.dropWhile opener ++ opening :: secret) driverId = true ∨
            ∃ entry ∈ (surrounding ++ opening :: secret).zipIdx,
              tokenCarries (bodyCarries alphanumeric driverId (maxBodyDepth - layers.length))
                (surrounding ++ opening :: secret) driverId entry.2 entry.1 = true) ∨
        caughtElsewhere alphanumeric driverId ⟨before, surrounding ++ opening :: secret, after⟩
          maxBodyDepth layers = true) ∧
      (carriesCredentials alphanumeric driverId text = true → ∀ history inserted,
        (record alphanumeric history ⟨text, driverId⟩ inserted).2 = history) := by
  constructor
  · rw [nested.lexed, nested_carries nested, statementCarries_block takesSql opens flagged]
  · intro caught history inserted
    unfold record
    split <;> rfl

end Layers

/-- A role made behind a condition, and one made five bodies deep. -/
def conditionalRole : List Char := "IF a THEN CREATE USER u PASSWORD 'p'".toList

def buriedRole : List Char :=
  ("DO $a$ DO $b$ DO $c$ DO $d$ DO $e$ BEGIN CREATE USER u PASSWORD 'p' " ++
    "$e$ $d$ $c$ $b$ $a$").toList

def makesRole : List Token :=
  [.word "CREATE".toList, .word "USER".toList, .word "u".toList, .word "PASSWORD".toList,
    .text "'p'".toList]

/-- Neither is caught, and the history keeps both. -/
theorem conditional_role_stored :
    secretStatement makesRole "postgres" = true ∧
      lex Char.isAlphanum "postgres" conditionalRole =
        some ([.word "IF".toList, .word "a".toList] ++ .word "THEN".toList :: makesRole) ∧
      record Char.isAlphanum [] ⟨conditionalRole, "postgres"⟩ (.ok 1) =
        (.ok (some 1), [⟨conditionalRole, "postgres"⟩]) ∧
      carriesCredentials Char.isAlphanum "postgres" buriedRole = false := by
  decide +kernel

/-- Behind openers only, it is. -/
theorem loop_role_caught :
    carriesCredentials Char.isAlphanum "postgres" "BEGIN LOOP CREATE USER u PASSWORD 'p'".toList =
      true := by
  have nested : Nested Char.isAlphanum "postgres"
      ⟨[], [.word "BEGIN".toList] ++ .word "LOOP".toList :: makesRole, []⟩ []
      "BEGIN LOOP CREATE USER u PASSWORD 'p'".toList :=
    .here ⟨[.word "BEGIN".toList] ++ .word "LOOP".toList :: makesRole, by decide +kernel,
      by decide +kernel⟩
  exact (blocks_caught_iff (by decide) (by decide +kernel) (by decide +kernel) nested).1.mpr
    (.inl ⟨by decide, .inl (by decide +kernel)⟩)

end Bookie.Sql.Credentials
