/-
Tamper evidence of the journal. Verification forces the three chain fields of
every record from the records before it, so an accepted file is a hash chain
over its raw payloads and its last record fixes all of them.
-/

import Mathlib.Data.Set.Function
import Bookie.Chain.HashChain
import Bookie.Storage.JournalJson
import Bookie.Storage.JournalReplay

namespace Bookie.Storage

open Text Policy Chain List JournalRecordRaw

def filePayloads (wire : JournalWire) (file : Bytes) : List Bytes :=
  (fileRecords wire file).map event

def hashedStrings (wire : JournalWire) (file : Bytes) : List Bytes :=
  (fileRecords wire file).map fun raw => hashInput raw.prevHash raw.seq raw.event

def JournalRecordRaw.tail (raw : JournalRecordRaw) : JournalTail :=
  { seq := raw.seq, hash := raw.hash }

def recordLink (wire : JournalWire) (seq : Nat) (previousHash payload : Bytes) : Bytes :=
  recordHash wire previousHash seq payload

/-- The records `records` continue the chain from `start` and end at `finish`. -/
structure Chained (wire : JournalWire) (start : JournalTail) (records : List JournalRecordRaw)
    (finish : JournalTail) : Prop where
  last : (records.getLast?.map JournalRecordRaw.tail).getD start = finish
  seq : finish.seq = start.seq + records.length
  hash : finish.hash = chainHash (recordLink wire) start.seq start.hash
    (records.map event)
  inputs : records.map (fun raw => ⟨raw.seq, raw.prevHash, raw.event⟩) =
    linkInputs (recordLink wire) start.seq start.hash (records.map event)

private theorem chained_nil (wire : JournalWire) (start : JournalTail) :
    Chained wire start [] start :=
  { last := rfl
    seq := rfl
    hash := rfl
    inputs := rfl }

private theorem Chained.cons {wire : JournalWire} {start finish : JournalTail}
    {raw : JournalRecordRaw} {records : List JournalRecordRaw}
    (valid : validateChainFields wire raw.seq raw.prevHash raw.hash start raw.event = .ok ())
    (rest : Chained wire raw.tail records finish) : Chained wire start (raw :: records) finish := by
  obtain ⟨_, seq, prev, hash⟩ := (validateChainFields_eq_ok_iff ..).mp valid
  have linked : recordLink wire (start.seq + 1) start.hash raw.event = raw.hash := by
    rw [hash, seq, recordLink]
  exact
    { last := by
        rw [← rest.last]
        cases records with
        | nil => rfl
        | cons next records => rw [getLast?_cons_cons]; rfl
      seq := by
        have next : raw.tail.seq = start.seq + 1 := seq
        rw [rest.seq, length_cons]
        omega
      hash := by
        rw [rest.hash, map_cons, chainHash, linked, ← seq]
        rfl
      inputs := by
        rw [map_cons, rest.inputs, map_cons, linkInputs, linked, prev, ← seq]
        rfl }

private theorem chained_of_acceptLines {wire : JournalWire} {lines : List Line}
    {state reached : JournalState} (accepted : acceptLines wire lines state = .ok reached) :
    Chained wire state.tail (rawRecords wire lines) reached.tail := by
  induction lines generalizing state with
  | nil =>
    cases accepted
    exact chained_nil wire _
  | cons line lines ih =>
    obtain ⟨next, first, accepted⟩ := ok_of_bind accepted
    have rest := ih accepted
    rcases acceptLine_eq_ok first with
      ⟨blank, rfl⟩ | ⟨raw, event, solid, parsed, _, chain, rfl⟩
    · simpa [rawRecords, lineRecord, blank] using rest
    have found : rawRecords wire (line :: lines) = raw :: rawRecords wire lines := by
      simp [rawRecords, lineRecord, solid, parsed]
    rw [found]
    exact Chained.cons chain rest

/-! ### The tail determines the payloads -/

private theorem genesisHash_length : genesisHash.length = 64 := length_replicate

/-- The concatenation that is hashed can be taken apart again, because the
previous hash has a fixed width and the sequence numbers are equal. -/
private theorem hashInput_injective {left right : Bytes} {seq : Nat} {payload other : Bytes}
    (leftWidth : left.length = 64) (rightWidth : right.length = 64)
    (same : hashInput left seq payload = hashInput right seq other) :
    left = right ∧ payload = other := by
  rw [hashInput, hashInput, append_assoc, append_assoc] at same
  obtain ⟨hashes, rest⟩ := append_inj same (leftWidth.trans rightWidth.symm)
  exact ⟨hashes, (append_inj rest rfl).2⟩

/-- Every link of an accepted file was hashed during its verification, after a
previous hash of full width. -/
private theorem linkInputs_hashed {wire : JournalWire}
    (digestLength : ∀ input, (wire.sha256 input).length = 32) {file : Bytes} {finish : JournalTail}
    (chain : Chained wire JournalState.genesis.tail (fileRecords wire file) finish) :
    ∀ input ∈ linkInputs (recordLink wire) 0 genesisHash (filePayloads wire file),
      input.previous.length = 64 ∧
        hashInput input.previous input.index input.payload ∈ hashedStrings wire file := by
  intro input member
  constructor
  · exact previous_of_linkInputs (recordLink wire) (fun hash => hash.length = 64)
      (fun _ _ _ => by rw [recordLink, recordHash, hexEncode_length, digestLength]) 0
      genesisHash_length _ input member
  have inputs := chain.inputs
  change _ = linkInputs (recordLink wire) 0 genesisHash (filePayloads wire file) at inputs
  rw [← inputs, mem_map] at member
  obtain ⟨raw, found, rfl⟩ := member
  exact mem_map.mpr ⟨raw, found, rfl⟩

/-- Tamper evidence: two accepted files that end in the same record number and
hash hold the same payloads in the same order. -/
theorem tail_determines_payloads {wire : JournalWire}
    (digestLength : ∀ input, (wire.sha256 input).length = 32)
    {left right : Bytes} {leftMode rightMode : Bool} {leftScan rightScan : Scan}
    (leftAccepted : fullScan wire leftMode left = .ok leftScan)
    (rightAccepted : fullScan wire rightMode right = .ok rightScan)
    (injective : Set.InjOn wire.sha256
      {input | input ∈ hashedStrings wire left ∨ input ∈ hashedStrings wire right})
    (sameTail : (fileRecords wire left).getLast?.map JournalRecordRaw.tail =
      (fileRecords wire right).getLast?.map JournalRecordRaw.tail) :
    filePayloads wire left = filePayloads wire right := by
  obtain ⟨leftLines, leftFold, leftRecords⟩ := acceptLines_of_fullScan leftAccepted
  obtain ⟨rightLines, rightFold, rightRecords⟩ := acceptLines_of_fullScan rightAccepted
  have leftChain := chained_of_acceptLines leftFold
  have rightChain := chained_of_acceptLines rightFold
  rw [leftRecords] at leftChain
  rw [rightRecords] at rightChain
  have tails : leftScan.state.tail = rightScan.state.tail := by
    rw [← leftChain.last, ← rightChain.last, sameTail]
  have sameLength : (filePayloads wire left).length = (filePayloads wire right).length := by
    have seqs := congrArg JournalTail.seq tails
    rw [leftChain.seq, rightChain.seq] at seqs
    simpa [filePayloads] using seqs
  have sameHash := congrArg JournalTail.hash tails
  rw [leftChain.hash, rightChain.hash] at sameHash
  refine (payloads_eq_of_chainHash_eq (recordLink wire) 0 sameLength ?_ sameHash).2
  intro used member other otherMember sameIndex sameOutput
  obtain ⟨usedWidth, usedHashed⟩ := linkInputs_hashed digestLength leftChain used member
  obtain ⟨otherWidth, otherHashed⟩ := linkInputs_hashed digestLength rightChain other otherMember
  have digests := hexEncode_injective sameOutput
  have inputs := injective (.inl usedHashed) (.inr otherHashed) digests
  rw [sameIndex] at inputs
  exact hashInput_injective usedWidth otherWidth inputs

/-- A blank line behind a record keeps the tail, and so the payloads. -/
theorem tail_determines_payloads_blank_line :
    ∃ tail bytes, writeLog jsonWire [sampleWriteEvent .intent .pending] = .ok (tail, bytes) ∧
      filePayloads jsonWire bytes = filePayloads jsonWire (bytes ++ [newline]) := by
  obtain ⟨record, made⟩ : ∃ record, nextRecord jsonWire JournalState.genesis.tail
      (sampleWriteEvent .intent .pending) = .ok record := ⟨_, rfl⟩
  have writing := nextLine_eq_ok_iff.mpr ⟨record, made, rfl, rfl⟩
  have written := appendToFile_eq_ok_iff.mpr ⟨_, writing, Eq.refl ([] ++ _)⟩
  have valid := (replays_nil jsonWire).append jsonWire_laws writing
  have records := fileRecords_append jsonWire_laws endsLine_nil record
  generalize [] ++ (jsonWire.recordBytes record ++ [newline]) = bytes at written valid records
  have padded : Replays jsonWire (bytes ++ [newline])
      (JournalState.genesis.advance (sampleWriteEvent .intent .pending) record.tail) :=
    { ends := valid.ends.append (endsLine_append_newline [])
      accepted := by
        rw [readLines_append _ _ valid.ends, acceptLines_append, valid.accepted]
        rfl }
  have same : fileRecords jsonWire (bytes ++ [newline]) = fileRecords jsonWire bytes := by
    rw [fileRecords, readLines_append _ _ valid.ends, rawRecords, filterMap_append]
    exact append_nil _
  refine ⟨record.tail, bytes, ?_, ?_⟩
  · simp [writeLog, written]
  refine tail_determines_payloads jsonWire_laws.sha256_length (valid.fullScan true)
    (padded.fullScan true) ?_ (by rw [same])
  rw [hashedStrings, hashedStrings]
  rintro _ (left | left) _ (right | right) _ <;> simp_all [fileRecords, rawRecords]

end Bookie.Storage
