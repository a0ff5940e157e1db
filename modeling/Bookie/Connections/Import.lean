/-
An import neither loosens nor loses a local connection, and brings every connection of
the bundle once.
-/

import Bookie.Connections.Bundle

namespace Bookie.Connections

open Policy Store Text List Option

variable (lower : String → String)

/-- The ids drawn for a bundle are new to the local list and the bundle, and differ. -/
structure FreshIds (saved : List SavedConnection) (body : BundleBody) (fresh : Nat → Uuid) :
    Prop where
  differ : ∀ first < body.connections.length, ∀ second < body.connections.length,
    fresh first = fresh second → first = second
  unsaved : ∀ index < body.connections.length, fresh index ∉ saved.map SavedConnection.id
  unbundled : ∀ index < body.connections.length,
    fresh index ∉ body.connections.map BundleConnection.id

/-- The id is free among the local records, or names the same endpoint there. -/
def KeepsId (saved : List SavedConnection) (incoming : BundleConnection) : Prop :=
  ∀ existing ∈ saved, existing.id = incoming.id →
    endpointKey lower existing = endpointKey lower incoming.toSaved

instance (saved : List SavedConnection) (incoming : BundleConnection) :
    Decidable (KeepsId lower saved incoming) :=
  inferInstanceAs (Decidable (∀ existing ∈ saved, _ → _))

def importedId (saved : List SavedConnection) (fresh : Nat → Uuid) (index : Nat)
    (incoming : BundleConnection) : Uuid :=
  if KeepsId lower saved incoming then incoming.id else fresh index

/-- A record stands for a bundle connection: it reaches the same server in the same way and is at
least as strict, and where no local record had its id it has the bundle's settings as they are. -/
structure Represents (saved : List SavedConnection) (under : Uuid) (incoming : BundleConnection)
    (record : SavedConnection) : Prop where
  id : record.id = under
  name : record.name = incoming.name
  server : (record.driverId, record.host, record.port, record.socketDir, record.socketPath,
      record.database, record.ssh) =
    (incoming.driverId, incoming.host, incoming.port, incoming.socketDir, incoming.socketPath,
      incoming.database, incoming.ssh)
  login : (record.username, record.authMode, record.authSource, record.tlsClientCert,
      record.tlsClientKey) =
    (incoming.username, incoming.authMode, incoming.authSource, incoming.tlsClientCert,
      incoming.tlsClientKey)
  readOnly : incoming.readOnly = true → record.readOnly = true
  environment : environmentRank incoming.environment ≤ environmentRank record.environment
  tls : tlsRank incoming.tlsMode ≤ tlsRank record.effectiveTlsMode
  attached : incoming.attachedDatabases ≠ [] →
    record.attachedDatabases = incoming.attachedDatabases
  alone : (∀ existing ∈ saved, existing.id ≠ under) →
    (record.readOnly, record.environment, record.effectiveTlsMode, record.tlsRootCert,
      record.attachedDatabases) =
    (incoming.readOnly, incoming.environment, incoming.tlsMode, incoming.tlsRootCert,
      incoming.attachedDatabases)

/-- The same record of the same server, at least as strict. -/
structure Tightens (existing record : SavedConnection) : Prop where
  id : record.id = existing.id
  endpoint : endpointKey lower record = endpointKey lower existing
  readOnly : existing.readOnly = true → record.readOnly = true
  environment : environmentRank existing.environment ≤ environmentRank record.environment
  tls : tlsRank existing.effectiveTlsMode ≤ tlsRank record.effectiveTlsMode

variable {lower}

private theorem mergeWithoutDowngrade_tightens {existing incoming : SavedConnection}
    (id : incoming.id = existing.id)
    (endpoint : endpointKey lower incoming = endpointKey lower existing) :
    Tightens lower existing (mergeWithoutDowngrade existing incoming) where
  id := id
  endpoint := endpoint
  readOnly := by
    intro strict
    change (existing.readOnly || incoming.readOnly) = true
    rw [strict, Bool.true_or]
  environment := by
    change _ ≤ environmentRank (higherEnvironment existing.environment incoming.environment)
    rw [environmentRank_higherEnvironment]
    exact Nat.le_max_left _ _
  tls := by
    change _ ≤ tlsRank (stricterTls existing.effectiveTlsMode incoming.effectiveTlsMode)
    rw [tlsRank_stricterTls]
    exact Nat.le_max_left _ _

private theorem toSaved_represents (saved : List SavedConnection) (id : Uuid)
    (incoming : BundleConnection) :
    Represents saved id incoming { incoming.toSaved with id } :=
  ⟨rfl, rfl, rfl, rfl, fun strict => strict, Nat.le_refl _, Nat.le_refl _, fun _ => rfl,
    fun _ => rfl⟩

private theorem mergeWithoutDowngrade_represents {saved : List SavedConnection}
    {existing : SavedConnection} {incoming : BundleConnection} (member : existing ∈ saved)
    (same : existing.id = incoming.id) :
    Represents saved incoming.id incoming (mergeWithoutDowngrade existing incoming.toSaved) where
  id := rfl
  name := rfl
  server := rfl
  login := rfl
  readOnly := by
    intro strict
    change (existing.readOnly || incoming.readOnly) = true
    rw [strict, Bool.or_true]
  environment := by
    change _ ≤ environmentRank (higherEnvironment existing.environment incoming.environment)
    rw [environmentRank_higherEnvironment]
    exact Nat.le_max_right _ _
  tls := by
    change _ ≤ tlsRank (stricterTls existing.effectiveTlsMode incoming.tlsMode)
    rw [tlsRank_stricterTls]
    exact Nat.le_max_right _ _
  attached := by
    intro attached
    change (if incoming.attachedDatabases.isEmpty then _ else _) = _
    rw [if_neg (by simpa using attached)]
    rfl
  alone := fun free => absurd same (free existing member)

section

variable {saved : List SavedConnection} {fresh : Nat → Uuid} {body : BundleBody}

private theorem find_id {connections : List SavedConnection}
    (distinct : (connections.map SavedConnection.id).Nodup) {existing other : SavedConnection}
    {id : Uuid} (found : connections.find? (fun saved => saved.id == id) = some existing)
    (member : other ∈ connections) (same : other.id = id) : other = existing := by
  have named : existing.id = id := by simpa using find?_some found
  exact inj_on_of_nodup_map distinct member (mem_of_find?_eq_some found)
    (same.trans named.symm)

/-- What one item holds: the bundle's record under the id it is imported by. -/
private theorem planOne_connection (distinct : (saved.map SavedConnection.id).Nodup) {index : Nat}
    (unsaved : fresh index ∉ saved.map SavedConnection.id) (incoming : BundleConnection)
    (organization : Option BundleOrganization) :
    let item := planOne lower saved (fresh index) incoming organization
    item.connection.id = importedId lower saved fresh index incoming ∧
      Represents saved (importedId lower saved fresh index incoming) incoming item.connection ∧
      ∀ existing ∈ saved, existing.id = item.connection.id →
        Tightens lower existing item.connection := by
  cases found : saved.find? (fun existing => existing.id == incoming.id) with
  | none =>
    have free : ∀ existing ∈ saved, existing.id ≠ incoming.id := by
      intro existing member same
      have absent := find?_eq_none.mp found existing member
      exact absent (beq_iff_eq.mpr same)
    have kept : importedId lower saved fresh index incoming = incoming.id :=
      if_pos (fun existing member same => absurd same (free existing member))
    rw [planOne, found, kept]
    refine ⟨rfl, toSaved_represents saved _ incoming, ?_⟩
    intro existing member same
    exact absurd same (free existing member)
  | some existing =>
    have member := mem_of_find?_eq_some found
    have named : existing.id = incoming.id := by simpa using find?_some found
    by_cases endpoint : endpointKey lower existing = endpointKey lower incoming.toSaved
    · have kept : importedId lower saved fresh index incoming = incoming.id := by
        apply if_pos
        intro other present same
        rw [find_id distinct found present same]
        exact endpoint
      have updated : (endpointKey lower existing != endpointKey lower incoming.toSaved) = false :=
        bne_eq_false_iff_eq.mpr endpoint
      rw [planOne, found, kept]
      simp only [updated]
      refine ⟨rfl, mergeWithoutDowngrade_represents member named, ?_⟩
      intro other present same
      rw [find_id distinct found present same]
      exact mergeWithoutDowngrade_tightens named.symm endpoint.symm
    have drawn : importedId lower saved fresh index incoming = fresh index := by
      apply if_neg
      intro keeps
      exact endpoint (keeps existing member named)
    have remapped : (endpointKey lower existing != endpointKey lower incoming.toSaved) = true :=
      bne_iff_ne.mpr endpoint
    rw [planOne, found, drawn]
    simp only [remapped, if_true]
    refine ⟨trivial, toSaved_represents saved _ incoming, ?_⟩
    intro other present drawnId
    exact absurd (drawnId ▸ mem_map_of_mem present) unsaved

private theorem planItems_ok {organization : Assoc Uuid BundleOrganization} {seen : List Uuid}
    {index : Nat} {connections : List BundleConnection} {items : List ImportItem}
    (planned : planItems lower saved fresh organization seen index connections = .ok items) :
    (connections.map BundleConnection.id).Nodup ∧
      (∀ connection ∈ connections, connection.id ∉ seen) ∧
      items = connections.mapIdx (fun place incoming =>
        planOne lower saved (fresh (index + place)) incoming (organization.get? incoming.id)) := by
  induction connections generalizing seen index items with
  | nil =>
    cases planned
    refine ⟨nodup_nil, ?_, rfl⟩
    intro connection member
    cases member
  | cons incoming rest ih =>
    rw [planItems] at planned
    split at planned
    case isTrue => cases planned
    case isFalse unseen =>
      obtain ⟨others, later, built⟩ := ok_of_bind planned
      cases built
      obtain ⟨distinct, fresher, same⟩ := ih later
      refine ⟨?_, ?_, ?_⟩
      · rw [map_cons, nodup_cons]
        refine ⟨?_, distinct⟩
        intro member
        obtain ⟨other, inside, equal⟩ := mem_map.mp member
        exact fresher other inside (equal ▸ mem_cons_self)
      · intro connection member
        rcases mem_cons.mp member with rfl | inside
        · simpa using unseen
        · intro already
          exact fresher connection inside (mem_cons_of_mem _ already)
      rw [mapIdx_cons, same]
      congr 2
      funext place other
      rw [Nat.add_assoc, Nat.add_comm 1 place]

private theorem planImport_ok {plan : ImportPlan}
    (planned : planImport lower saved fresh body = .ok plan) :
    (body.connections.map BundleConnection.id).Nodup ∧
      plan.items = body.connections.mapIdx (fun index incoming =>
        planOne lower saved (fresh index) incoming (body.organization.get? incoming.id)) := by
  obtain ⟨-, -, planned⟩ := ok_of_bind planned
  obtain ⟨items, listed, built⟩ := ok_of_bind planned
  cases built
  obtain ⟨distinct, _, same⟩ := planItems_ok listed
  simp only [Nat.zero_add] at same
  exact ⟨distinct, same⟩

private theorem importedId_differ (new : FreshIds saved body fresh)
    (distinct : (body.connections.map BundleConnection.id).Nodup) {first second : Nat}
    {one two : BundleConnection} (atFirst : body.connections[first]? = some one)
    (atSecond : body.connections[second]? = some two)
    (same : importedId lower saved fresh first one = importedId lower saved fresh second two) :
    first = second := by
  have firstBound := (List.getElem?_eq_some_iff.mp atFirst).1
  have secondBound := (List.getElem?_eq_some_iff.mp atSecond).1
  have oneMember : one.id ∈ body.connections.map BundleConnection.id :=
    mem_map_of_mem (mem_of_getElem? atFirst)
  have twoMember : two.id ∈ body.connections.map BundleConnection.id :=
    mem_map_of_mem (mem_of_getElem? atSecond)
  unfold importedId at same
  split at same
  · split at same
    · by_contra different
      have mapped : (body.connections.map BundleConnection.id)[first]? =
          (body.connections.map BundleConnection.id)[second]? := by
        rw [getElem?_map, getElem?_map, atFirst, atSecond, map_some, map_some, same]
      exact different ((getElem?_inj (by rwa [length_map]) distinct).mp mapped)
    · exact absurd (same ▸ oneMember) (new.unbundled second secondBound)
  · split at same
    · exact absurd (same ▸ twoMember) (new.unbundled first firstBound)
    · exact new.differ first firstBound second secondBound same

private theorem planned_records (distinct : (saved.map SavedConnection.id).Nodup)
    (new : FreshIds saved body fresh) {plan : ImportPlan}
    (planned : planImport lower saved fresh body = .ok plan) :
    ((plan.items.map ImportItem.connection).map SavedConnection.id).Nodup ∧
      (∀ index incoming, body.connections[index]? = some incoming →
        ∃ record ∈ plan.items.map ImportItem.connection,
          record.id = importedId lower saved fresh index incoming ∧
          Represents saved (importedId lower saved fresh index incoming) incoming record) ∧
      ∀ record ∈ plan.items.map ImportItem.connection,
        (∃ index incoming, body.connections[index]? = some incoming ∧
          record.id = importedId lower saved fresh index incoming) ∧
        ∀ existing ∈ saved, existing.id = record.id → Tightens lower existing record := by
  obtain ⟨bundled, items⟩ := planImport_ok planned
  -- the record at a place of the bundle
  have placed (index : Nat) : (plan.items.map ImportItem.connection)[index]? =
      body.connections[index]?.map (fun incoming => (planOne lower saved (fresh index) incoming
        (body.organization.get? incoming.id)).connection) := by
    rw [items, getElem?_map, getElem?_mapIdx, Option.map_map]
    rfl
  have each (index : Nat) (incoming : BundleConnection)
      (found : body.connections[index]? = some incoming) :=
    @planOne_connection lower saved fresh distinct index
      (new.unsaved index (List.getElem?_eq_some_iff.mp found).1) incoming
      (body.organization.get? incoming.id)
  refine ⟨?_, ?_, ?_⟩
  · rw [nodup_iff_getElem?_ne_getElem?]
    intro first second before bound same
    rw [getElem?_map, placed, getElem?_map, placed] at same
    rw [length_map, length_map, items, length_mapIdx] at bound
    have atFirst := getElem?_eq_getElem (Nat.lt_trans before bound)
    have atSecond := getElem?_eq_getElem bound
    rw [atFirst, atSecond] at same
    simp only [map_some, some.injEq] at same
    rw [(each first _ atFirst).1, (each second _ atSecond).1] at same
    exact absurd (importedId_differ new bundled atFirst atSecond same) (Nat.ne_of_lt before)
  · intro index incoming found
    obtain ⟨named, represents, _⟩ := each index incoming found
    have there := placed index
    rw [found] at there
    exact ⟨_, mem_of_getElem? there, named, represents⟩
  intro record member
  obtain ⟨index, at_⟩ := mem_iff_getElem?.mp member
  rw [placed, map_eq_some_iff] at at_
  obtain ⟨incoming, found, rfl⟩ := at_
  obtain ⟨named, _, tightens⟩ := each index incoming found
  exact ⟨⟨index, incoming, found, named⟩, tightens⟩

end

/-- **Imports ratchet.** The ids stay distinct. A local record stays as it is or is replaced by
a record of the same id and endpoint that is at least as strict. Each connection of the bundle
has one record, under its own id if that is free or names the same endpoint and else under the
fresh one; the other records are local ones. -/
theorem import_never_loosens (lower : String → String) (saved : List SavedConnection)
    (fresh : Nat → Uuid) (body : BundleBody) (plan : ImportPlan)
    (distinct : (saved.map SavedConnection.id).Nodup) (new : FreshIds saved body fresh)
    (planned : planImport lower saved fresh body = .ok plan) :
    ((applyImport saved plan).map SavedConnection.id).Nodup ∧
      (∀ existing ∈ saved, existing ∈ applyImport saved plan ∨
        ∃ record ∈ applyImport saved plan, Tightens lower existing record) ∧
      (∀ index incoming, body.connections[index]? = some incoming →
        ∃ record, (applyImport saved plan).filter (fun other =>
            other.id == importedId lower saved fresh index incoming) = [record] ∧
          Represents saved (importedId lower saved fresh index incoming) incoming record) ∧
      (∀ first second one two, body.connections[first]? = some one →
        body.connections[second]? = some two →
        importedId lower saved fresh first one = importedId lower saved fresh second two →
        first = second) ∧
      ∀ record ∈ applyImport saved plan, record ∈ saved ∨
        ∃ index incoming, body.connections[index]? = some incoming ∧
          record.id = importedId lower saved fresh index incoming := by
  obtain ⟨items, represented, sourced⟩ := planned_records distinct new planned
  have rewritten := upsertAll_eq items saved
  refine ⟨upsertAll_distinct distinct items, ?_, ?_, ?_, ?_⟩
  · intro existing member
    unfold applyImport
    rw [rewritten]
    by_cases named : existing.id ∈ (plan.items.map ImportItem.connection).map SavedConnection.id
    · obtain ⟨record, inside, same⟩ := mem_map.mp named
      have tightens := (sourced record inside).2 existing member same.symm
      exact .inr ⟨record, mem_append_right _ inside, tightens⟩
    apply Or.inl
    apply mem_append_left
    rw [mem_filter]
    exact ⟨member, by simpa using named⟩
  · intro index incoming found
    obtain ⟨record, member, named, represents⟩ := represented index incoming found
    refine ⟨record, ?_, represents⟩
    rw [← named]
    exact upsertAll_filter_item items member
  · intro first second one two atFirst atSecond same
    exact importedId_differ new (planImport_ok planned).1 atFirst atSecond same
  intro record member
  unfold applyImport at member
  rw [rewritten] at member
  rcases mem_append.mp member with kept | imported
  · exact .inl (mem_filter.mp kept).1
  · exact .inr (sourced record imported).1

def serverRecord (id : Uuid) (host : String) (tls : TlsMode) (readOnly : Bool)
    (environment : Environment) : SavedConnection :=
  { id, name := host, driverId := "postgres", host, port := 5432, socketDir := none,
    socketPath := none, database := "shop", username := "app", useTls := tls.encrypts,
    tlsMode := some tls, tlsRootCert := none, tlsClientCert := none, tlsClientKey := none,
    readOnly, authMode := .password, environment, ssh := none, lastOpenedAt := none,
    connectTimeoutSecs := none, queryTimeoutSecs := none, authSource := none,
    attachedDatabases := [] }

def bundledServer (id : Uuid) (host : String) (tls : TlsMode) : BundleConnection :=
  { id, name := host, driverId := "postgres", host, port := 5432, socketDir := none,
    socketPath := none, database := "shop", username := "app", tlsMode := tls,
    tlsRootCert := none, tlsClientCert := none, tlsClientKey := none, readOnly := false,
    authMode := .password, environment := .local, ssh := none, authSource := none,
    attachedDatabases := [] }

def localServers : List SavedConnection :=
  [serverRecord 1 "db" .verifyFull true .prod, serverRecord 2 "logs" .prefer false .dev]

/-- The first server with looser settings, another server under the second id, and a new one. -/
def looserBundle : BundleBody :=
  { connections := [bundledServer 1 "db" .disabled, bundledServer 2 "mail" .disabled,
      bundledServer 3 "new" .require]
    organization := .empty
    secrets := [] }

theorem looser_bundle_imported :
    ∃ plan, planImport id localServers (fun index => BitVec.ofNat 128 (index + 100)) looserBundle =
        .ok plan ∧
      ((applyImport localServers plan).map SavedConnection.id).Nodup ∧
      (∀ existing ∈ localServers, existing ∈ applyImport localServers plan ∨
        ∃ record ∈ applyImport localServers plan, Tightens id existing record) := by
  have new : FreshIds localServers looserBundle (fun index => BitVec.ofNat 128 (index + 100)) :=
    { differ := by decide
      unsaved := by decide
      unbundled := by decide }
  obtain ⟨distinct, kept, _⟩ := import_never_loosens id localServers
    (fun index => BitVec.ofNat 128 (index + 100)) looserBundle _ (by decide) new rfl
  exact ⟨_, rfl, distinct, kept⟩

end Bookie.Connections
