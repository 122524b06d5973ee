import BpmpPlatform.Store.Load
import BpmpPlatform.Engine.EventRoundTrip
import BpmpPlatform.Library.Log

/-! # Loading beside commits

A load that runs beside commits answers with an instance of some point between its first and its last read exactly when
no event is added to the instance in between.
-/
namespace BpmpPlatform.Store
open Std Outcome Replication List

variable {events : MessageFormat Wire.EventEnvelope} {snapshots : MessageFormat Wire.WorkflowSnapshot} {C M : Type}
  {stream : List EventEnvelope} {n : Nat}

section Instance
variable (tenant : TenantId) (inst : InstanceId)

def concerns (request : CommitRequest) : Bool := request.tenantId == tenant && request.instanceId == inst

def streamEvents (history : List CommitRequest) : List EventEnvelope :=
  (history.filter (concerns tenant inst)).flatMap CommitRequest.events

def latestSnapshot (history : List CommitRequest) : Option SnapshotEnvelope :=
  (history.filter (concerns tenant inst)).foldl (fun latest request => request.snapshot.or latest) none

def latestVersion (history : List CommitRequest) : Nat :=
  (history.filter (concerns tenant inst)).foldl (fun _ request => request.result.version) 0

def instanceAt (history : List CommitRequest) : LoadedInstance where
  snapshot := latestSnapshot tenant inst history
  events := (streamEvents tenant inst history).filter fun event =>
    decide (event.sequence > snapshotPosition (latestSnapshot tenant inst history))
  version := latestVersion tenant inst history

variable {tenant inst}

theorem concerns_iff {request : CommitRequest} :
    concerns tenant inst request = true ↔ request.tenantId = tenant ∧ request.instanceId = inst := by
  simp [concerns]

section
variable (history : List CommitRequest)
include history

theorem streamEvents_append (request : CommitRequest) : streamEvents tenant inst (history ++ [request]) =
      streamEvents tenant inst history ++ if concerns tenant inst request then request.events else [] := by
  cases h : concerns tenant inst request <;> simp [streamEvents, h]

theorem latestSnapshot_append (request : CommitRequest) : latestSnapshot tenant inst (history ++ [request]) =
      if concerns tenant inst request then request.snapshot.or (latestSnapshot tenant inst history)
      else latestSnapshot tenant inst history := by
  cases h : concerns tenant inst request <;> simp [latestSnapshot, h]

theorem latestVersion_append (request : CommitRequest) : latestVersion tenant inst (history ++ [request]) =
      if concerns tenant inst request then request.result.version else latestVersion tenant inst history := by
  cases h : concerns tenant inst request <;> simp [latestVersion, h]

end

end Instance

section Runs
variable (crypto : PayloadCrypto (Plaintext events snapshots) C)

structure CommitCall where
  nonces : Nonces
  request : CommitRequest

structure CommitRun (C M : Type) where
  db : Db C M
  history : List CommitRequest

def CommitRun.start : CommitRun C M := ⟨∅, []⟩

def CommitRun.answered (run : CommitRun C M) (request : CommitRequest) :
    Except StoreError (CommitOutcome × Db C M) → CommitRun C M
  | .ok (.committed _, db) => ⟨db, run.history ++ [request]⟩
  | .ok (.duplicate _, db) => ⟨db, run.history⟩
  | .error _ => run

def CommitRun.step (run : CommitRun C M) (call : CommitCall) : CommitRun C M :=
  run.answered call.request (commit run.db call.request crypto call.nonces)

def CommitRun.calls (run : CommitRun C M) (calls : List CommitCall) : CommitRun C M :=
  calls.foldl (CommitRun.step crypto) run

/-- A call commits its request and writes its records, or changes nothing. -/
theorem CommitRun.step_cases (run : CommitRun C M) (call : CommitCall) :
    run.step crypto call = run ∨ ∃ encrypted tail, Committed crypto call.request run.db encrypted tail ∧
      run.step crypto call = ⟨applyWrites run.db (commitWrites call.request encrypted tail),
        run.history ++ [call.request]⟩ := by
  unfold CommitRun.step
  cases hco : commit run.db call.request crypto call.nonces with
  | error => exact .inl rfl
  | ok result =>
    obtain ⟨outcome,db⟩ := result
    rcases commit_cases hco with ⟨stored,_,rfl,rfl⟩ | ⟨encrypted,tail,_,hcommitted,rfl,rfl⟩
    · exact .inl rfl
    · exact .inr ⟨encrypted,tail,hcommitted,rfl⟩

/-- A request that names the version its events lead to, and whose records can be read back. -/
structure Faithful (events : MessageFormat Wire.EventEnvelope) (snapshots : MessageFormat Wire.WorkflowSnapshot)
    (request : CommitRequest) : Prop where
  version : request.result.version = request.expectedVersion + request.events.length
  representable : request.result.version ≤ u64Max
  events : ∀ event ∈ request.events, EventCodec.decode events (EventCodec.encode events event) = .ok event
  snapshot : ∀ snapshot, request.snapshot = some snapshot →
    SnapshotCodec.decode snapshots (SnapshotCodec.encode snapshots snapshot) = .ok snapshot

variable (tenant : TenantId) (inst : InstanceId)

structure StreamHeld (db : Db C M) (history : List CommitRequest) : Prop where
  version : readVersion db tenant inst = .ok (streamEvents tenant inst history).length
  latest : latestVersion tenant inst history = (streamEvents tenant inst history).length
  representable : (streamEvents tenant inst history).length ≤ u64Max
  numbered : Log.Numbered EventEnvelope.sequence (streamEvents tenant inst history)
  snapshot : loadSnapshot crypto tenant inst db = .ok (latestSnapshot tenant inst history)
  position : snapshotPosition (latestSnapshot tenant inst history) ≤ (streamEvents tenant inst history).length
  records : ∀ (key : StoreKey) (value : StoreValue C M), db[(⟨eventsCf, key⟩ : StorageKey StoreKey)]? = some value →
    key.label = "" → (streamPrefix tenant inst).isPrefixOf key.components = true →
    ∃ event ∈ streamEvents tenant inst history, key = eventStorageKey tenant inst event.sequence ∧
      loadEvent crypto tenant inst key value = .ok event
  stored : ∀ event ∈ streamEvents tenant inst history,
    db[(⟨eventsCf, eventStorageKey tenant inst event.sequence⟩ : StorageKey StoreKey)]?.isSome = true

theorem StreamHeld.start : StreamHeld crypto tenant inst (∅ : Db C M) [] where
  version := by simp [readVersion, streamEvents]
  latest := rfl
  representable := Nat.zero_le _
  numbered := Log.Numbered.nil
  snapshot := by simp [loadSnapshot, latestSnapshot]
  position := Nat.zero_le _
  records _ _ h := by simp at h
  stored _ h := by simp [streamEvents] at h

end Runs

section Checks
variable {request : CommitRequest}

theorem numbers_of_contiguous (hf : stream.head?.all (fun event => event.sequence == n) = true)
    (h : CommitRequest.contiguous stream = true) :
    stream.map EventEnvelope.sequence = List.range' n stream.length := by
  induction stream generalizing n with
  | nil => rfl
  | cons first rest ih =>
    have hn : first.sequence = n := by simpa using hf
    rw [map_cons, length_cons, List.range'_succ, hn]
    congr 1
    cases rest with
    | nil => rfl
    | cons =>
      simp only [CommitRequest.contiguous, Bool.and_eq_true, beq_iff_eq] at h
      apply ih _ h.2
      simp [h.1, hn]

theorem validateRequest_spec (h : validateRequest request = .ok ()) :
    request.events.map EventEnvelope.sequence = List.range' (request.expectedVersion + 1) request.events.length ∧
      (∀ event ∈ request.events, event.metadata.tenantId = request.tenantId ∧
        event.metadata.instanceId = request.instanceId) ∧
      (∀ snapshot, request.snapshot = some snapshot → snapshot.tenantId = request.tenantId ∧
        snapshot.instanceId = request.instanceId ∧ request.expectedVersion < snapshot.state.sequence ∧
        snapshot.state.sequence ≤ request.result.version) := by
  simp only [validateRequest, validateSequences, bind_eq_ok, ensure_eq_ok, Bool.and_eq_true] at h
  obtain ⟨_,_,_,⟨⟨hf,hco⟩,hs⟩,hsn⟩ := h
  refine ⟨numbers_of_contiguous hf hco,fun event hin => ?_,fun snapshot hso => ?_⟩
  · have hev := all_eq_true.mp hs event hin
    simpa using hev
  · rw [hso] at hsn
    simpa [CommitRequest.snapshotFits, and_assoc] using hsn

end Checks

section Commit
variable {crypto : PayloadCrypto (Plaintext events snapshots) C} {tenant : TenantId} {inst : InstanceId} {db : Db C M}
  {history : List CommitRequest} {request : CommitRequest} {encrypted : Encrypted C} {tail : Nat}
  {event : EventEnvelope} {run : CommitRun C M}

theorem readVersion_commit : readVersion (applyWrites db (commitWrites request encrypted tail)) tenant inst =
      if concerns tenant inst request then .ok request.result.version else readVersion db tenant inst := by
  unfold readVersion
  rw [getElem?_commit_streamMeta]
  by_cases hco : concerns tenant inst request = true
  · obtain ⟨rfl,rfl⟩ := concerns_iff.mp hco
    rw [if_pos rfl, if_pos hco]
  · have hkey : streamMetaKey request.tenantId request.instanceId ≠ streamMetaKey tenant inst := fun heq =>
      hco (concerns_iff.mpr (streamPrefix_inj (congrArg StoreKey.components heq)))
    rw [if_neg hkey, if_neg hco]

/-- A commit keeps the snapshot or replaces it by that of its request. -/
theorem loadSnapshot_commit (hcommitted : Committed crypto request db encrypted tail)
    (hf : concerns tenant inst request = true → Faithful events snapshots request) :
    loadSnapshot crypto tenant inst (applyWrites db (commitWrites request encrypted tail)) =
      if concerns tenant inst request then
        match request.snapshot with
        | some snapshot => .ok (some snapshot)
        | none => loadSnapshot crypto tenant inst db
      else loadSnapshot crypto tenant inst db := by
  unfold loadSnapshot
  rw [getElem?_commit_snapshots]
  cases hsn : request.snapshot with
  | none =>
    rw [hcommitted.encrypts.noSnapshot hsn]
    exact (ite_self _).symm
  | some snapshot =>
    obtain ⟨record,hr,hde⟩ := hcommitted.encrypts.snapshot snapshot hsn
    rw [hr, snapshotWrites, getElem?_put]
    by_cases hco : concerns tenant inst request = true
    · obtain ⟨ht,hi,_,_⟩ := (validateRequest_spec hcommitted.valid).2.2 snapshot hsn
      obtain ⟨rfl,rfl⟩ := concerns_iff.mp hco
      have ho : openSnapshot crypto request.tenantId request.instanceId
          (.snapshot snapshot.state.sequence record : StoreValue C M) = .ok snapshot := by
        simp [openSnapshot, StoreValue.toSnapshotRecord, ok_bind, hde, Except.mapError, Plaintext.toSnapshot,
          (hf hco).snapshot snapshot hsn, ht, hi, ensure]
      rw [if_pos rfl, if_pos hco]
      simp only [ho, ok_bind]
      rfl
    · have hkey : snapshotStorageKey request.tenantId request.instanceId ≠ snapshotStorageKey tenant inst := fun heq =>
        hco (concerns_iff.mpr (streamPrefix_inj (congrArg StoreKey.components heq)))
      rw [if_neg hkey, if_neg hco]

section
variable (h : StreamHeld crypto tenant inst db history)
include h

section
variable (hcommitted : Committed crypto request db encrypted tail)
include hcommitted

theorem StreamHeld.records_commit
    (hf : concerns tenant inst request = true → Faithful events snapshots request) {key : StoreKey}
    {value : StoreValue C M}
    (hv : (applyWrites db (commitWrites request encrypted tail))[StorageKey.mk eventsCf key]? =
      some value) (hla : key.label = "") (hs : (streamPrefix tenant inst).isPrefixOf key.components = true) :
    ∃ event ∈ streamEvents tenant inst (history ++ [request]), key = eventStorageKey tenant inst event.sequence ∧
      loadEvent crypto tenant inst key value = .ok event := by
  rw [streamEvents_append]
  rcases getElem?_applyWrites_cases hv with ⟨write,hin,had,hr⟩ | ⟨_,hold⟩
  · obtain ⟨prepared,hp,rfl⟩ := mem_commitWrites_events.mp ⟨hin,congrArg StorageKey.columnFamily had⟩
    obtain ⟨event,hev,hen⟩ := exists_of_forall₂ hcommitted.encrypts.events.flip hp
    obtain rfl : prepared.key = key := congrArg StorageKey.key had
    obtain rfl : StoreValue.event prepared.record = value := Option.some.inj hr
    have hkey := hen.key
    rw [hkey] at hs
    obtain ⟨rfl,rfl⟩ := streamPrefix_inj (( isPrefixOf_iff_prefix.mp hs).eq_of_length rfl).symm
    have hco : concerns request.tenantId request.instanceId request = true := concerns_iff.mpr ⟨rfl,rfl⟩
    obtain ⟨ht,hi⟩ := (validateRequest_spec hcommitted.valid).2.1 event hev
    refine ⟨event,?_,hkey,?_⟩
    · rw [if_pos hco]
      exact mem_append_right _ hev
    · simp [loadEvent, StoreValue.toEventRecord, ok_bind, hen.decrypted, Except.mapError, Plaintext.toEvent,
        (hf hco).events event hev, ht, hi, ensure]
  · obtain ⟨event,hev,hkey,hl⟩ := h.records key value hold hla hs
    exact ⟨event,mem_append_left _ hev,hkey,hl⟩

theorem StreamHeld.stored_commit (hev : event ∈ streamEvents tenant inst (history ++ [request])) :
    (applyWrites db (commitWrites request encrypted tail))[
      StorageKey.mk eventsCf (eventStorageKey tenant inst event.sequence)]?.isSome = true := by
  refine getElem?_applyWrites_of_forall (P := (·.isSome = true)) (fun write hin _ => commitWrites_puts write hin) ?_
  rw [streamEvents_append, mem_append] at hev
  rcases hev with hev | hev
  · exact .inr (h.stored event hev)
  · split at hev
    · rename_i hco
      obtain ⟨rfl,rfl⟩ := concerns_iff.mp hco
      obtain ⟨prepared,hp,hen⟩ := exists_of_forall₂ hcommitted.encrypts.events hev
      refine .inl ⟨_,(mem_commitWrites_events.mpr ⟨prepared,hp,rfl⟩).1,?_⟩
      rw [← hen.key]
      rfl
    · cases hev

/-- A commit that goes through keeps the database in step with the committed requests. -/
theorem StreamHeld.commit
    (hf : concerns tenant inst request = true → Faithful events snapshots request) :
    StreamHeld crypto tenant inst (applyWrites db (commitWrites request encrypted tail)) (history ++ [request]) := by
  obtain ⟨hn,_,hsn⟩ := validateRequest_spec hcommitted.valid
  have hlo : loadSnapshot crypto tenant inst (applyWrites db (commitWrites request encrypted tail)) = _ :=
    loadSnapshot_commit hcommitted hf
  have hv : readVersion (applyWrites db (commitWrites request encrypted tail)) tenant inst = _ :=
    readVersion_commit
  by_cases hco : concerns tenant inst request = true
  · obtain ⟨rfl,rfl⟩ := concerns_iff.mp hco
    have he : request.expectedVersion = (streamEvents request.tenantId request.instanceId history).length :=
      Except.ok.inj (hcommitted.version.symm.trans h.version)
    have hr := hf hco
    have hl : (streamEvents request.tenantId request.instanceId (history ++ [request])).length =
        request.result.version := by
      rw [streamEvents_append, if_pos hco, length_append, hr.version, he]
    refine ⟨?_,?_,?_,?_,?_,?_,fun _ _ hval hla hs => h.records_commit hcommitted hf hval hla hs,
      fun _ hev => h.stored_commit hcommitted hev⟩
    · rw [hv, if_pos hco, hl]
    · rw [latestVersion_append, if_pos hco, hl]
    · rw [hl]
      exact hr.representable
    · rw [streamEvents_append, if_pos hco]
      rw [he] at hn
      exact h.numbered.append hn
    · rw [hlo, if_pos hco, latestSnapshot_append, if_pos hco]
      cases hc : request.snapshot with
      | none => exact h.snapshot
      | some => rfl
    · rw [hl, latestSnapshot_append, if_pos hco]
      cases hc : request.snapshot with
      | none =>
        refine Nat.le_trans h.position ?_
        rw [hr.version, he]
        exact Nat.le_add_right _ _
      | some snapshot => exact (hsn snapshot hc).2.2.2
  · have hsa : streamEvents tenant inst (history ++ [request]) = streamEvents tenant inst history := by
      rw [streamEvents_append, if_neg hco, append_nil]
    have hlat : latestSnapshot tenant inst (history ++ [request]) = latestSnapshot tenant inst history := by
      rw [latestSnapshot_append, if_neg hco]
    refine ⟨?_,?_,?_,?_,?_,?_,fun _ _ hval hla hs => h.records_commit hcommitted hf hval hla hs,
      fun _ hev => h.stored_commit hcommitted hev⟩
    · rw [hv, if_neg hco, hsa]
      exact h.version
    · rw [latestVersion_append, if_neg hco, hsa]
      exact h.latest
    · rw [hsa]
      exact h.representable
    · rw [hsa]
      exact h.numbered
    · rw [hlo, if_neg hco, hlat]
      exact h.snapshot
    · rw [hsa, hlat]
      exact h.position

end

end

theorem StreamHeld.step (h : StreamHeld crypto tenant inst run.db run.history) {call : CommitCall}
    (hf : concerns tenant inst call.request = true → Faithful events snapshots call.request) :
    StreamHeld crypto tenant inst (run.step crypto call).db (run.step crypto call).history := by
  rcases run.step_cases crypto call with hs | ⟨encrypted,tail,hcommitted,hst⟩
  · rw [hs]
    exact h
  · rw [hst]
    exact h.commit hcommitted hf

theorem StreamHeld.calls (h : StreamHeld crypto tenant inst run.db run.history) {calls : List CommitCall}
    (hf : ∀ call ∈ calls, concerns tenant inst call.request = true → Faithful events snapshots call.request) :
    StreamHeld crypto tenant inst (run.calls crypto calls).db (run.calls crypto calls).history := by
  induction calls generalizing run with
  | nil => exact h
  | cons call calls ih =>
    rw [forall_mem_cons] at hf
    exact ih (h.step hf.1) hf.2

end Commit

section Reading
variable {crypto : PayloadCrypto (Plaintext events snapshots) C} {tenant : TenantId} {inst : InstanceId} {db : Db C M}
  {history : List CommitRequest}

theorem mem_streamRecords {record : StorageKey StoreKey × StoreValue C M} :
    record ∈ streamRecords tenant inst db ↔ record.1.columnFamily = eventsCf ∧ db[record.1]? = some record.2 ∧
      record.1.key.label = "" ∧ (streamPrefix tenant inst).isPrefixOf record.1.key.components = true := by
  obtain ⟨key,value⟩ := record
  simp only [streamRecords, familyRecords, mem_filter, ExtTreeMap.mem_toList_iff_getElem?_eq_some, beq_iff_eq,
    Bool.and_eq_true]
  tauto

def Reads (crypto : PayloadCrypto (Plaintext events snapshots) C) (tenant : TenantId) (inst : InstanceId)
    (record : StorageKey StoreKey × StoreValue C M) (event : EventEnvelope) : Prop :=
  record.1.key = eventStorageKey tenant inst event.sequence ∧
    loadEvent crypto tenant inst record.1.key record.2 = .ok event

def keyNumber (record : StorageKey StoreKey × StoreValue C M) : Nat := record.1.key.numbers.headD 0

theorem lt_of_compare_eventStorageKey {m : Nat} (h : compare (StorageKey.mk eventsCf (eventStorageKey tenant inst n))
      ⟨eventsCf, eventStorageKey tenant inst m⟩ = .lt) : n < m := by
  simp only [compare_storageKey, compare_storeKey, eventStorageKey, ReflOrd.compare_self, Ordering.eq_then] at h
  have hn : (compare n m).then (compare ([] : List Nat) []) = .lt := List.compareLex_cons_cons.symm.trans h
  rw [ReflOrd.compare_self, Ordering.then_eq] at hn
  exact Nat.compare_eq_lt.mp hn

/-- The iterator goes through the events of the instance in their order. -/
theorem StreamHeld.iterated (h : StreamHeld crypto tenant inst db history) : List.Forall₂ (Reads crypto tenant inst)
    (streamRecords tenant inst db) (streamEvents tenant inst history) := by
  have hr : ∀ record ∈ streamRecords tenant inst db, ∃ event ∈ streamEvents tenant inst history,
      record.1 = ⟨eventsCf, eventStorageKey tenant inst event.sequence⟩ ∧
        loadEvent crypto tenant inst record.1.key record.2 = .ok event := by
    intro record hin
    obtain ⟨hf,hv,hla,hst⟩ := mem_streamRecords.mp hin
    obtain ⟨⟨family,key⟩,value⟩ := record
    obtain rfl : family = eventsCf := hf
    obtain ⟨event,hev,hkey,hl⟩ := h.records key value hv hla hst
    exact ⟨event,hev,by rw [hkey],hl⟩
  have hs : ((streamRecords tenant inst db).map keyNumber).Pairwise (· < ·) := by
    rw [pairwise_map]
    have hor : (streamRecords tenant inst db).Pairwise fun a b => compare a.1 b.1 = .lt :=
      (ExtTreeMap.ordered_keys_toList.filter _).filter _
    refine hor.imp_of_mem fun {a b} ha hb hlt => ?_
    obtain ⟨event,_,hkey,_⟩ := hr a ha
    obtain ⟨event',_,hkey',_⟩ := hr b hb
    rw [hkey, hkey'] at hlt
    have hn := lt_of_compare_eventStorageKey hlt
    simpa [keyNumber, hkey, hkey', eventStorageKey] using hn
  have hnum : (streamRecords tenant inst db).map keyNumber =
      (streamEvents tenant inst history).map EventEnvelope.sequence := by
    refine hs.eq_of_mem_iff ?_ fun n => ?_
    · rw [h.numbered]
      exact pairwise_lt_range'
    · simp only [mem_map]
      constructor
      · rintro ⟨record,hin,rfl⟩
        obtain ⟨event,hev,hkey,_⟩ := hr record hin
        exact ⟨event,hev,by rw [keyNumber, hkey]; rfl⟩
      · rintro ⟨event,hev,rfl⟩
        obtain ⟨value,hv⟩ := Option.isSome_iff_exists.mp (h.stored event hev)
        exact ⟨⟨⟨eventsCf, eventStorageKey tenant inst event.sequence⟩, value⟩,
          mem_streamRecords.mpr ⟨rfl,hv,rfl,by simp [eventStorageKey, streamPrefix, List.isPrefixOf]⟩,rfl⟩
  have hpa : List.Forall₂ (fun record event => keyNumber record = EventEnvelope.sequence event)
      (streamRecords tenant inst db) (streamEvents tenant inst history) := by
    have heq := forall₂_eq_eq_eq ▸ hnum
    exact forall₂_map_left_iff.mp (forall₂_map_right_iff.mp heq)
  have hfo := Log.forall₂_imp_of_mem hpa.flip fun event record hin hn => And.intro (hr record hin) hn
  refine Log.forall₂_imp_of_mem hfo.flip fun record event hev hbo => ?_
  obtain ⟨⟨event',hev',hkey,hl⟩,hn⟩ := hbo
  have hsq : event'.sequence = event.sequence := by
    rw [keyNumber, hkey] at hn
    exact hn
  obtain rfl := h.numbered.eq_of_number hev' hev hsq
  exact ⟨by rw [hkey],hl⟩

/-- The events after the snapshot are taken, up to the bound. -/
theorem replayEvents_eq {records : List (StorageKey StoreKey × StoreValue C M)} {maxReplayEvents position taken : Nat}
    (h : List.Forall₂ (Reads crypto tenant inst) records stream) (ht : taken ≤ maxReplayEvents) :
    replayEvents crypto tenant inst maxReplayEvents position taken records =
      if taken + (stream.filter fun event => decide (event.sequence > position)).length ≤ maxReplayEvents then
        .ok (stream.filter fun event => decide (event.sequence > position))
      else .error (.replayLimitExceeded maxReplayEvents) := by
  induction h generalizing taken with
  | nil => simp [replayEvents, ht]
  | @cons record event records stream hr _ ih =>
    obtain ⟨key,value⟩ := record
    have hsq : sequenceFromEventKey tenant inst key.key = .ok event.sequence := by
      rw [hr.1]
      simp [sequenceFromEventKey, eventStorageKey]
    rw [replayEvents, hsq, ok_bind]
    by_cases hold : event.sequence ≤ position
    · have hs : decide (event.sequence > position) = false := by simpa using hold
      rw [if_pos hold, ih ht, filter_cons_of_neg (by rw [hs]; exact Bool.false_ne_true)]
    · have hnew : decide (event.sequence > position) = true := by simpa using hold
      rw [if_neg hold, filter_cons_of_pos (by rw [hnew]), length_cons]
      by_cases hf : taken = maxReplayEvents
      · have hst : (taken != maxReplayEvents) = false := by simpa using hf
        rw [if_neg (by omega), hst]
        rfl
      · rw [ih (show taken + 1 ≤ maxReplayEvents by omega), Nat.add_right_comm, ← Nat.add_assoc]
        simp only [ensure, bne_iff_ne, ne_eq, hf, not_false_eq_true, if_true, ok_bind, hr.2]
        split
        · rfl
        · rfl

variable {maxReplayEvents : Nat} {versionDb snapshotDb : Db C M} {version : Nat} {snapshot : Option SnapshotEnvelope}

/-- What is loaded when the stream is read at one point and version and snapshot were read before. -/
theorem load_eq (h : List.Forall₂ (Reads crypto tenant inst) (streamRecords tenant inst db) stream)
    (hnum : Log.Numbered EventEnvelope.sequence stream) (hrep : stream.length ≤ u64Max)
    (hv : readVersion versionDb tenant inst = .ok version)
    (hsn : loadSnapshot crypto tenant inst snapshotDb = .ok snapshot)
    (hpo : snapshotPosition snapshot ≤ stream.length) :
    load crypto tenant inst maxReplayEvents versionDb snapshotDb db =
      if snapshotPosition snapshot ≤ version then
        if stream.length - snapshotPosition snapshot ≤ maxReplayEvents then
          if stream.length = version then .ok ⟨snapshot, stream.drop (snapshotPosition snapshot), version⟩
          else .error (.corruptData (.detail "stream metadata version does not match snapshot and tail events"))
        else .error (.replayLimitExceeded maxReplayEvents)
      else .error (.corruptData (.detail "snapshot sequence exceeds stream version")) := by
  have hre : replayEvents crypto tenant inst maxReplayEvents (snapshotPosition snapshot) 0
      (streamRecords tenant inst db) = _ := replayEvents_eq h (Nat.zero_le maxReplayEvents)
  rw [hnum.filter_after, length_drop, Nat.zero_add] at hre
  rw [load, hv, ok_bind, hsn, ok_bind]
  by_cases ha : snapshotPosition snapshot ≤ version
  · rw [if_pos ha]
    simp only [ensure, ha, decide_true, if_true, ok_bind, hre]
    by_cases hb : stream.length - snapshotPosition snapshot ≤ maxReplayEvents
    · simp only [if_pos hb, ok_bind, length_drop, Nat.add_sub_cancel' hpo, hrep, decide_true, if_true, beq_iff_eq]
      split
      · rfl
      · rfl
    · simp only [if_neg hb]
      rfl
  · simp only [ensure, ha, decide_false]
    rfl

end Reading

section Interleaving
variable (crypto : PayloadCrypto (Plaintext events snapshots) C)

theorem CommitRun.history_step (run : CommitRun C M) (call : CommitCall) :
    run.history <+: (run.step crypto call).history := by
  rcases run.step_cases crypto call with hs | ⟨_,_,_,hst⟩
  · rw [hs]
  · rw [hst]
    exact prefix_append _ _

theorem CommitRun.history_calls (run : CommitRun C M) (calls : List CommitCall) :
    run.history <+: (run.calls crypto calls).history := by
  induction calls generalizing run with
  | nil => exact prefix_refl _
  | cons call calls ih => exact (run.history_step crypto call).trans (ih _)

theorem streamEvents_mono {tenant : TenantId} {inst : InstanceId} {history history' : List CommitRequest}
    (h : history <+: history') : streamEvents tenant inst history <+: streamEvents tenant inst history' := by
  obtain ⟨more,rfl⟩ := h
  unfold streamEvents
  rw [filter_append, flatMap_append]
  exact prefix_append _ _

variable (tenant : TenantId) (inst : InstanceId) (maxReplayEvents : Nat)

/-- A load beside commits of requests that name the right version and can be read back: `early` happen between the
reading of the version and that of the snapshot, `late` between that and the opening of the iterator. The load answers
with the instance of a point in between exactly when no event is added to the instance meanwhile and the tail is within
the bound; it reports no corrupt data unless an event is added. -/
theorem load_linearizable_iff (start early late : List CommitCall)
    (hfaithful : ∀ call ∈ start ++ (early ++ late), concerns tenant inst call.request = true →
      Faithful events snapshots call.request) : let before : CommitRun C M := CommitRun.start.calls crypto start
    let middle := before.calls crypto early
    let after := middle.calls crypto late
    let loaded := load crypto tenant inst maxReplayEvents before.db middle.db after.db
    ((∃ done, done <+: early ++ late ∧ loaded = .ok (instanceAt tenant inst (before.calls crypto done).history)) ↔
      streamEvents tenant inst after.history = streamEvents tenant inst before.history ∧
        (instanceAt tenant inst middle.history).events.length ≤ maxReplayEvents) ∧
    (streamEvents tenant inst after.history = streamEvents tenant inst before.history →
      ∀ cause, loaded ≠ .error (.corruptData cause)) := by
  intro before middle after loaded
  simp only [forall_mem_append] at hfaithful
  obtain ⟨hst,he,hla⟩ := hfaithful
  have hbef : StreamHeld crypto tenant inst before.db before.history := (StreamHeld.start crypto tenant inst).calls hst
  have hm : StreamHeld crypto tenant inst middle.db middle.history := hbef.calls he
  have ha : StreamHeld crypto tenant inst after.db after.history := hm.calls hla
  have hf : streamEvents tenant inst before.history <+: streamEvents tenant inst middle.history :=
    streamEvents_mono (before.history_calls crypto early)
  have hs : streamEvents tenant inst middle.history <+: streamEvents tenant inst after.history :=
    streamEvents_mono (middle.history_calls crypto late)
  have hp := hm.position
  have hlo : loaded = _ :=
    load_eq ha.iterated ha.numbered ha.representable hbef.version hm.snapshot (Nat.le_trans hp hs.length_le)
  have hq : streamEvents tenant inst after.history = streamEvents tenant inst before.history ↔
      (streamEvents tenant inst after.history).length = (streamEvents tenant inst before.history).length :=
    ⟨fun heq => by rw [heq],fun hl => ((hf.trans hs).eq_of_length hl.symm).symm⟩
  have ht : (instanceAt tenant inst middle.history).events =
      (streamEvents tenant inst middle.history).drop (snapshotPosition (latestSnapshot tenant inst middle.history)) :=
    hm.numbered.filter_after _
  have hle := hf.length_le
  have hl' := hs.length_le
  constructor
  · constructor
    · rintro ⟨done,_,hok⟩
      rw [hlo] at hok
      split at hok
      · split at hok
        · rename_i hb
          split at hok
          · rename_i hl
            refine ⟨hq.mpr hl,?_⟩
            rw [ht, length_drop]
            omega
          · cases hok
        · cases hok
      · cases hok
    · rintro ⟨hsa,hb⟩
      have hl := hq.mp hsa
      have hmid : streamEvents tenant inst middle.history = streamEvents tenant inst after.history :=
        hs.eq_of_length (by omega)
      have hi : instanceAt tenant inst middle.history = ⟨latestSnapshot tenant inst middle.history,
          (streamEvents tenant inst after.history).drop (snapshotPosition (latestSnapshot tenant inst middle.history)),
          (streamEvents tenant inst before.history).length⟩ := by
        rw [← hmid, ← ht, ← hl, ← hmid, ← hm.latest]
        rfl
      rw [ht, length_drop, hmid] at hb
      refine ⟨early,prefix_append _ _,?_⟩
      rw [hlo, if_pos (by omega), if_pos hb, if_pos hl]
      exact congrArg Except.ok hi.symm
  · intro hsa cause
    have hl := hq.mp hsa
    rw [hlo, if_pos (by omega), if_pos hl]
    split
    · exact nofun
    · exact nofun

end Interleaving

namespace Sample

theorem request_faithful (command : CommandId) (expectedVersion : Nat) (eventIds : List String)
    (h : expectedVersion + eventIds.length ≤ u64Max) : Faithful (.plain _) (.plain _)
      (request command expectedVersion eventIds (expectedVersion + eventIds.length)) where
  version := by simp [request, result]
  representable := h
  events e hin := by
    simp only [request, mem_map] at hin
    obtain ⟨id,_,rfl⟩ := hin
    exact (EventCodec.decode_encode_iff _ ⟨rfl,rfl,rfl⟩).mpr trivial
  snapshot _ h := nomatch h

def startCall : CommitCall := ⟨nonces 1, request (.lit "start") 0 ["start:1"] 1⟩

def nextCall : CommitCall := ⟨nonces 2, request (.lit "next") 1 ["next:2"] 2⟩

def invoice : InstanceId := .lit "invoice"

def invoiceCall : CommitCall where
  nonces := nonces 3
  request := { request (.lit "bill") 0 [] 1 with
    instanceId := invoice
    authorizationAudit := { audit (.lit "bill") with instanceId := invoice }
    events := [{ event (.lit "bill") "bill:1" 1 with
      metadata := { (event (.lit "bill") "bill:1" 1).metadata with instanceId := invoice } }] }

end Sample

open BpmpPlatform.Store.Sample

/-- Another instance is committed between the first two reads. -/
theorem load_linearizable_iff_invoiced :
    let before : CommitRun _ Nat := CommitRun.start.calls crypto [startCall]
    let after := before.calls crypto [invoiceCall]
    after.history.length = 2 ∧ ∃ done, done <+: [invoiceCall] ++ [] ∧
      load crypto tenant order 100 before.db after.db after.db = .ok (instanceAt tenant order (before.calls crypto done).history) := by
  refine ⟨by decide +kernel,
    (load_linearizable_iff crypto tenant order 100 [startCall] [invoiceCall] [] ?_).1.mpr ⟨?_,by decide +kernel⟩⟩
  · simp only [cons_append, nil_append, forall_mem_cons, not_mem_nil, false_implies, implies_true, and_true]
    exact ⟨fun _ => request_faithful (.lit "start") 0 ["start:1"] (by decide),fun h => absurd h (by decide)⟩
  · decide +kernel

/-- A commit between the reading of the version and the opening of the iterator is taken for corrupt data. -/
theorem load_beside_commit_corrupt :
    let before : CommitRun _ Nat := CommitRun.start.calls crypto [startCall]
    let after := before.calls crypto [nextCall]
    Faithful (.plain _) (.plain _) startCall.request ∧ Faithful (.plain _) (.plain _) nextCall.request ∧
      before.history.length = 1 ∧ after.history.length = 2 ∧
      load crypto tenant order 100 before.db before.db after.db =
        .error (.corruptData (.detail "stream metadata version does not match snapshot and tail events")) := by
  refine ⟨request_faithful (.lit "start") 0 ["start:1"] (by decide),
    request_faithful (.lit "next") 1 ["next:2"] (by decide),?_,?_,?_⟩
  · decide +kernel
  · decide +kernel
  · decide +kernel

end BpmpPlatform.Store
