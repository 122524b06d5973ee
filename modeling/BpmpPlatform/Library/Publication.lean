import BpmpPlatform.Library.Log

/-! # Publishing a numbered outbox in leased batches

A publisher claims the rows after the checkpoint under a lease, has a sink accept them one by one and then moves the
checkpoint past them. A lease that ran out lets another publisher claim the same rows.
-/
namespace BpmpPlatform.Publication
open Log List

structure Row (E : Type) where
  sequence : Nat
  event : E
  published : Bool := false
  leaseOwner : Option String := none

structure Outbox (E : Type) where
  rows : List (Row E) := []
  checkpoint : Nat := 0
  leaseOwner : Option String := none
  leaseUntil : Option Nat := none

inductive OutboxError
  | notContiguous
  | leaseLost
  | batchChanged
  deriving DecidableEq

variable {E : Type} {r : Row E} {workerId : String} {sink : List Nat} {b : Batch}

def Row.selected (first last : Nat) (p : Row E → Bool) (r : Row E) : Bool :=
  decide (first ≤ r.sequence) && decide (r.sequence ≤ last) && !r.published && p r

namespace Outbox

def leaseIsActive (o : Outbox E) (now : Nat) : Bool := o.leaseOwner.isSome && o.leaseUntil.any (now < ·)

/-- What is not published after the checkpoint, in the order of the numbers. -/
def pending (o : Outbox E) (limit : Nat) : List (Row E) :=
  ((o.rows.filter fun r => decide (r.sequence > o.checkpoint) && !r.published).insertionSort
    fun a b => a.sequence ≤ b.sequence).take limit

def update (o : Outbox E) (p : Row E → Bool) (f : Row E → Row E) : Outbox E :=
  { o with rows := o.rows.map fun r => if p r then f r else r }

/-- Only the first row is compared with the checkpoint. A batch with a row that is not due is not claimed. -/
def claim (o : Outbox E) (workerId : String) (batchSize leaseDuration now : Nat) (early due : E → Bool) :
    Except OutboxError (Option (List (Row E) × Outbox E)) :=
  if o.leaseIsActive now then pure none
  else match o.pending batchSize with
    | [] => pure none
    | first :: rest =>
      if first.sequence ≠ o.checkpoint + 1 then throw .notContiguous
      else if early first.event then pure none
      else
        let claimed := Row.selected first.sequence (rest.getLastD first).sequence fun r => due r.event
        if o.rows.countP claimed ≠ rest.length + 1 then pure none
        else pure (some (first :: rest, { o.update claimed fun r => { r with leaseOwner := some workerId } with
          leaseOwner := some workerId, leaseUntil := some (now + leaseDuration) }))

def complete (o : Outbox E) (workerId : String) : List Nat → Except OutboxError (Outbox E)
  | [] => pure o
  | first :: rest =>
    if o.leaseOwner ≠ some workerId ∨ first ≠ o.checkpoint + 1 then throw .leaseLost
    else
      let held := Row.selected first (rest.getLastD first) fun r => r.leaseOwner == some workerId
      if o.rows.countP held ≠ rest.length + 1 then throw .batchChanged
      else pure { o.update held fun r => { r with published := true, leaseOwner := none } with
        checkpoint := rest.getLastD first, leaseOwner := none, leaseUntil := none }

/-- The lease is given back only if the worker still has it. -/
def fail (o : Outbox E) (workerId : String) (postpone : E → E) : List Nat → Outbox E
  | [] => o
  | first :: rest =>
    let held := Row.selected first (rest.getLastD first) fun r => r.leaseOwner == some workerId
    let released := o.update held fun r => { r with event := postpone r.event, leaseOwner := none }
    if o.leaseOwner = some workerId then { released with leaseOwner := none, leaseUntil := none } else released

/-- The rows carry the numbers from one on, and those up to the checkpoint are the published ones. -/
structure Dense (o : Outbox E) : Prop where
  numbered : Numbered Row.sequence o.rows
  published : ∀ r ∈ o.rows, (r.published = true ↔ r.sequence ≤ o.checkpoint)
  within : o.checkpoint ≤ o.rows.length

variable {o o' : Outbox E} {p : Row E → Bool} {f : Row E → Row E} {batchSize leaseDuration now : Nat}
  {early due : E → Bool} {records : List (Row E)}

theorem map_update {F : Type} {g : Row E → F} (hf : ∀ r, g (f r) = g r) :
    (o.update p f).rows.map g = o.rows.map g := by
  rw [update, map_map]
  refine map_congr_left fun r _ => ?_
  by_cases hp : p r = true
  · simp [hp, hf]
  · simp [hp]

theorem length_update : (o.update p f).rows.length = o.rows.length := length_map ..

theorem numbered_update (h : Numbered Row.sequence o.rows) (hf : ∀ r, (f r).sequence = r.sequence) :
    Numbered Row.sequence (o.update p f).rows := by
  rw [Numbered, map_update hf, length_update]
  exact h

/-- A claim takes the pending rows and leases some rows. -/
theorem claim_eq_some (hc : o.claim workerId batchSize leaseDuration now early due = .ok (some (records, o'))) :
    records = o.pending batchSize ∧ ∃ p, o' = { o.update p fun r => { r with leaseOwner := some workerId } with
      leaseOwner := some workerId, leaseUntil := some (now + leaseDuration) } := by
  rw [claim] at hc
  split at hc
  · cases hc
  · split at hc
    · cases hc
    · next heq =>
      split at hc
      · cases hc
      · split at hc
        · cases hc
        · dsimp only at hc
          split at hc
          · cases hc
          · cases hc
            exact ⟨heq.symm,_,rfl⟩

section Events
variable {F : Type} {g : E → F}

theorem claim_events (hc : o.claim workerId batchSize leaseDuration now early due = .ok (some (records, o'))) :
    (o'.rows.map fun r => g r.event) = o.rows.map fun r => g r.event := by
  obtain ⟨-,p,rfl⟩ := claim_eq_some hc
  exact map_update fun _ => rfl

theorem complete_events {records : List Nat} (hc : o.complete workerId records = .ok o') :
    (o'.rows.map fun r => g r.event) = o.rows.map fun r => g r.event := by
  cases records with
  | nil =>
    cases hc
    rfl
  | cons first rest =>
    rw [complete] at hc
    split at hc
    · cases hc
    · dsimp only at hc
      split at hc
      · cases hc
      · cases hc
        exact map_update fun _ => rfl

theorem fail_events {postpone : E → E} (hg : ∀ e, g (postpone e) = g e) (records : List Nat) :
    ((o.fail workerId postpone records).rows.map fun r => g r.event) = o.rows.map fun r => g r.event := by
  cases records with
  | nil => rfl
  | cons first rest =>
    rw [fail]
    split
    · exact map_update fun r => hg r.event
    · exact map_update fun r => hg r.event

end Events

namespace Dense

theorem append (h : o.Dense) (hr : r.sequence = o.rows.length + 1) (hnew : r.published = false) :
    Dense { o with rows := o.rows ++ [r] } := by
  refine ⟨h.numbered.append (by simp [hr]), fun a ha => ?_, ?_⟩
  · rcases mem_append.mp ha with hold | hl
    · exact h.published a hold
    · obtain rfl := mem_singleton.mp hl
      have hwi := h.within
      simp only [hnew, hr, Bool.false_eq_true, false_iff]
      omega
  · simpa using Nat.le_succ_of_le h.within

theorem update (h : o.Dense) (hf : ∀ r, (f r).sequence = r.sequence ∧ (f r).published = r.published) :
    (o.update p f).Dense := by
  refine ⟨numbered_update h.numbered fun r => (hf r).1, fun a ha => ?_, ?_⟩
  · obtain ⟨r,hr,rfl⟩ := mem_map.mp ha
    have hm := h.published r hr
    split
    · rw [(hf r).1, (hf r).2]
      exact hm
    · exact hm
  · rw [length_update]
    exact h.within

theorem pending_eq (h : o.Dense) (limit : Nat) : o.pending limit = (o.rows.drop o.checkpoint).take limit := by
  have hfi : (o.rows.filter fun r => decide (r.sequence > o.checkpoint) && !r.published) =
      o.rows.drop o.checkpoint := by
    rw [← h.numbered.filter_after]
    refine filter_congr fun r hr => ?_
    have hm := h.published r hr
    by_cases hlt : r.sequence > o.checkpoint
    · have hun : r.published = false := by
        rw [← Bool.not_eq_true, hm]
        omega
      simp [hun]
    · simp [hlt]
  have hs : (o.rows.drop o.checkpoint).Pairwise fun a b => a.sequence ≤ b.sequence := by
    refine List.Pairwise.sublist (drop_sublist _ _) (pairwise_map.mp ?_)
    rw [h.numbered]
    exact pairwise_le_range'
  rw [pending, hfi, hs.insertionSort_eq]

theorem map_pending (h : o.Dense) (limit : Nat) :
    (o.pending limit).map Row.sequence = List.range' (o.checkpoint + 1) (o.pending limit).length ∧
      o.checkpoint + (o.pending limit).length ≤ o.rows.length := by
  rw [h.pending_eq]
  refine ⟨h.numbered.window_numbers _ _, ?_⟩
  have hwi := h.within
  rw [length_take, length_drop]
  omega

theorem claim_ne_notContiguous (h : o.Dense) :
    o.claim workerId batchSize leaseDuration now early due ≠ .error .notContiguous := by
  have hn := (h.map_pending batchSize).1
  rw [claim]
  split
  · rintro ⟨⟩
  · split
    · rintro ⟨⟩
    · next first rest heq =>
      rw [heq, map_cons, length_cons, List.range'_succ] at hn
      rw [if_neg (not_not.mpr (List.cons.inj hn).1)]
      split
      · rintro ⟨⟩
      · dsimp only
        split <;> rintro ⟨⟩

theorem claim_ok (h : o.Dense)
    (hc : o.claim workerId batchSize leaseDuration now early due = .ok (some (records, o'))) :
    o'.Dense ∧ o'.checkpoint = o.checkpoint ∧ o'.rows.length = o.rows.length ∧
      records.map Row.sequence = List.range' (o.checkpoint + 1) records.length ∧
      o.checkpoint + records.length ≤ o.rows.length := by
  obtain ⟨rfl,p,rfl⟩ := claim_eq_some hc
  have hl : (o.update p fun r => { r with leaseOwner := some workerId }).Dense := h.update fun _ => ⟨rfl,rfl⟩
  exact ⟨⟨hl.numbered,hl.published,hl.within⟩,rfl,length_update,h.map_pending batchSize⟩

variable {size : Nat}

/-- When as many rows were selected as the batch has numbers, they are the rows with these numbers. -/
theorem selected_of_count (h : o.Dense) {first : Nat}
    (hc : o.rows.countP (Row.selected first (first + size) p) = size + 1) (hr : r ∈ o.rows) (hf : first ≤ r.sequence)
    (hl : r.sequence ≤ first + size) : r.selected first (first + size) p = true := by
  let found := (o.rows.filter (Row.selected first (first + size) p)).map Row.sequence
  have hnd : found.Nodup := by
    refine List.Nodup.sublist (filter_sublist.map _) ?_
    rw [h.numbered]
    exact nodup_range'
  have hsub : found ⊆ List.range' first (size + 1) := by
    intro k hk
    obtain ⟨a,ha,rfl⟩ := mem_map.mp hk
    have hsel := (mem_filter.mp ha).2
    simp only [Row.selected, Bool.and_eq_true, decide_eq_true_eq] at hsel
    rw [mem_range'_1]
    omega
  have hp : found.Perm (List.range' first (size + 1)) := by
    refine (subperm_of_subset hnd hsub).perm_of_length_le ?_
    rw [length_range', length_map, ← countP_eq_length_filter, hc]
  have hmem : r.sequence ∈ found := hp.mem_iff.mpr (mem_range'_1.mpr (by omega))
  obtain ⟨a,ha,heq⟩ := mem_map.mp hmem
  obtain ⟨hrow,hsel⟩ := mem_filter.mp ha
  rwa [← h.numbered.eq_of_number hrow hr heq]

theorem complete_ok (h : o.Dense) {start : Nat} (hsi : start + size ≤ o.rows.length)
    (hc : o.complete workerId (List.range' (start + 1) size) = .ok o') :
    o'.Dense ∧ o'.rows.length = o.rows.length ∧ (size = 0 ∧ o' = o ∨ start = o.checkpoint ∧ o'.checkpoint = start + size) := by
  cases size with
  | zero =>
    cases hc
    exact ⟨h,rfl,.inl ⟨rfl,rfl⟩⟩
  | succ size =>
    have hl : (List.range' (start + 1 + 1) size).getLastD (start + 1) = start + 1 + size := by
      cases size with
      | zero => rfl
      | succ =>
        rw [List.range'_concat, getLastD_concat]
        omega
    rw [List.range'_succ, complete, hl] at hc
    split at hc
    · cases hc
    · next hgu =>
      have hs : start = o.checkpoint := by
        by_contra hne
        exact hgu (.inr (by omega))
      dsimp only at hc
      split at hc
      · cases hc
      · next hcnt =>
        cases hc
        rw [length_range', not_not] at hcnt
        refine ⟨⟨numbered_update h.numbered fun _ => rfl,?_,?_⟩,length_update,.inr ⟨hs,by dsimp only; omega⟩⟩
        · intro a ha
          obtain ⟨r,hr,rfl⟩ := mem_map.mp ha
          have hm := h.published r hr
          split
          · next hsel =>
            simp only [Row.selected, Bool.and_eq_true, decide_eq_true_eq] at hsel
            simpa using hsel.1.1.2
          · next hsel =>
            have hout : ¬ (start + 1 ≤ r.sequence ∧ r.sequence ≤ start + 1 + size) := fun hin =>
              hsel (h.selected_of_count hcnt hr hin.1 hin.2)
            rw [hm]
            dsimp only
            omega
        · rw [length_update]
          dsimp only
          omega

theorem fail (h : o.Dense) (workerId : String) (postpone : E → E) (records : List Nat) :
    (o.fail workerId postpone records).Dense ∧ (o.fail workerId postpone records).checkpoint = o.checkpoint ∧
      (o.fail workerId postpone records).rows.length = o.rows.length := by
  cases records with
  | nil => exact ⟨h,rfl,rfl⟩
  | cons first rest =>
    have hre := h.update (p := Row.selected first (rest.getLastD first) fun r => r.leaseOwner == some workerId)
      (f := fun r => { r with event := postpone r.event, leaseOwner := none }) fun _ => ⟨rfl,rfl⟩
    rw [Outbox.fail]
    split
    · exact ⟨⟨hre.numbered,hre.published,hre.within⟩,rfl,length_update⟩
    · exact ⟨hre,rfl,length_update⟩

end Dense

end Outbox

/-! ## Any number of publishers -/

/-- A claimed batch and how many of its records the sink has accepted. -/
structure Batch where
  records : List Nat
  sent : Nat := 0

/-- The outbox, the batches the publishers hold, what the sink accepted and which batches were completed. -/
structure Publishing (E : Type) where
  outbox : Outbox E := {}
  held : Nat → Option Batch := fun _ => none
  sink : List Nat := []
  completed : List (List Nat) := []

inductive Action (E : Type)
  | claim (batchSize leaseDuration now : Nat) (early due : E → Bool)
  | send
  | complete
  | fail (postpone : E → E)
  | crash

namespace Publishing

def setHeld (s : Publishing E) (publisher : Nat) (batch : Option Batch) : Publishing E :=
  { s with held := Function.update s.held publisher batch }

/-- A publisher does one thing after another: it claims when it holds no batch, sends the records in their order and
completes the batch when all were accepted. Whatever the result, it then no longer holds the batch. -/
def step (s : Publishing E) (publisher : Nat) (workerId : String) : Action E → Publishing E
  | .claim batchSize leaseDuration now early due =>
    match s.held publisher, s.outbox.claim workerId batchSize leaseDuration now early due with
    | none, .ok (some (records, outbox)) =>
      { s with outbox }.setHeld publisher (some { records := records.map Row.sequence })
    | _, _ => s
  | .send =>
    match s.held publisher with
    | none => s
    | some batch =>
      match batch.records[batch.sent]? with
      | none => s
      | some k => { s with sink := s.sink ++ [k] }.setHeld publisher (some { batch with sent := batch.sent + 1 })
  | .complete =>
    match s.held publisher with
    | none => s
    | some batch =>
      if batch.sent ≠ batch.records.length then s
      else match s.outbox.complete workerId batch.records with
        | .error _ => s.setHeld publisher none
        | .ok outbox => { s with outbox, completed := s.completed ++ [batch.records] }.setHeld publisher none
  | .fail postpone =>
    match s.held publisher with
    | none => s
    | some batch => { s with outbox := s.outbox.fail workerId postpone batch.records }.setHeld publisher none
  | .crash => s.setHeld publisher none

/-- A publisher adds and drops no event, and changes of an event only what postponing changes. -/
theorem step_events {F : Type} {g : E → F} {action : Action E}
    (hg : ∀ postpone, action = .fail postpone → ∀ e, g (postpone e) = g e) (s : Publishing E) (publisher : Nat)
    (workerId : String) :
    ((s.step publisher workerId action).outbox.rows.map fun r => g r.event) = s.outbox.rows.map fun r => g r.event := by
  cases action with
  | claim =>
    rw [step]
    split
    · next hc => exact Outbox.claim_events hc
    · rfl
  | send =>
    rw [step]
    split
    · rfl
    · split <;> rfl
  | complete =>
    rw [step]
    split
    · rfl
    · split
      · rfl
      · split
        · rfl
        · next hc => exact Outbox.complete_events hc
  | fail postpone =>
    rw [step]
    split
    · rfl
    · exact Outbox.fail_events (hg postpone rfl) _
  | crash => rfl

end Publishing

def InOrder (sink : List Nat) : Prop :=
  ∀ before after, sink = before ++ after → ∀ k, 0 < k → k + 1 ∈ before → k ∈ before

theorem InOrder.concat (h : InOrder sink) {n : Nat} (hn : ∀ k, 0 < k → n = k + 1 → k ∈ sink) :
    InOrder (sink ++ [n]) := by
  intro before after heq k hk hmem
  rcases append_eq_append_iff.mp heq with ⟨more,rfl,hm⟩ | ⟨more,rfl,-⟩
  · rcases mem_append.mp hmem with hold | hnew
    · exact mem_append_left _ (h sink [] (by simp) k hk hold)
    · have hn' : k + 1 ∈ [n] := by
        rw [hm]
        exact mem_append_left _ hnew
      exact mem_append_left _ (hn k hk (mem_singleton.mp hn').symm)
  · exact h before more rfl k hk hmem

def Batch.Fits (b : Batch) (checkpoint rows : Nat) (sink : List Nat) : Prop :=
  ∃ start size, b.records = List.range' (start + 1) size ∧ start ≤ checkpoint ∧ start + size ≤ rows ∧
    ∀ k, start < k → k ≤ start + b.sent → k ∈ sink

/-- The invariant of publishing from a dense outbox. -/
structure Orderly (s : Publishing E) : Prop where
  dense : s.outbox.Dense
  accepted : ∀ k, 0 < k → k ≤ s.outbox.checkpoint → k ∈ s.sink
  inOrder : InOrder s.sink
  held : ∀ publisher b, s.held publisher = some b → b.Fits s.outbox.checkpoint s.outbox.rows.length s.sink
  completed : s.completed.flatten = List.range' 1 s.outbox.checkpoint

theorem Batch.Fits.mono {checkpoint checkpoint' rows rows' : Nat} {sink' : List Nat} (h : b.Fits checkpoint rows sink)
    (hc : checkpoint ≤ checkpoint') (hr : rows ≤ rows') (hs : sink ⊆ sink') : b.Fits checkpoint' rows' sink' := by
  obtain ⟨start,size,hrs,hst,hsi,hse⟩ := h
  exact ⟨start,size,hrs,hst.trans hc,hsi.trans hr,fun k hk hle => hs (hse k hk hle)⟩

namespace Orderly
variable {s : Publishing E}

theorem initial : Orderly (E := E) {} where
  dense := ⟨.nil,by simp,Nat.le_refl 0⟩
  accepted := fun _ hk hle => absurd hk (Nat.not_lt.mpr hle)
  inOrder := by
    rintro before after heq k - hmem
    rw [(append_eq_nil_iff.mp heq.symm).1] at hmem
    cases hmem
  held := by simp
  completed := rfl

section
variable (h : Orderly s) {o : Outbox E} {publisher : Nat}
include h

/-- A change of the outbox that keeps the checkpoint and loses no row. -/
theorem outbox (ho : o.Dense) (hcp : o.checkpoint = s.outbox.checkpoint) (hr : s.outbox.rows.length ≤ o.rows.length) :
    Orderly { s with outbox := o } where
  dense := ho
  accepted := by simpa only [hcp] using h.accepted
  inOrder := h.inOrder
  held := fun publisher b hb => (h.held publisher b hb).mono hcp.ge hr (List.Subset.refl _)
  completed := by simpa only [hcp] using h.completed

theorem append (hr : r.sequence = s.outbox.rows.length + 1) (hnew : r.published = false) :
    Orderly { s with outbox := { s.outbox with rows := s.outbox.rows ++ [r] } } :=
  h.outbox (h.dense.append hr hnew) rfl (by simp)

theorem setHeld (publisher : Nat) {batch : Option Batch}
    (hbat : ∀ b, batch = some b → b.Fits s.outbox.checkpoint s.outbox.rows.length s.sink) :
    Orderly (s.setHeld publisher batch) where
  dense := h.dense
  accepted := h.accepted
  inOrder := h.inOrder
  held := by
    intro q b hb
    by_cases hq : q = publisher
    · subst hq
      exact hbat b (by simpa [Publishing.setHeld] using hb)
    · exact h.held q b (by simpa [Publishing.setHeld, hq] using hb)
  completed := h.completed

theorem drop (publisher : Nat) : Orderly (s.setHeld publisher none) := h.setHeld publisher (by simp)

/-- The next record of a batch comes after numbers that were all accepted. -/
theorem send (hb : s.held publisher = some b) {k : Nat} (hk : b.records[b.sent]? = some k) :
    Orderly ({ s with sink := s.sink ++ [k] }.setHeld publisher (some { b with sent := b.sent + 1 })) := by
  obtain ⟨start,size,hrs,hs,hsi,hse⟩ := h.held publisher b hb
  have hn : k = start + 1 + b.sent := by
    obtain ⟨_,hget⟩ := List.getElem?_eq_some_iff.mp hk
    rw [← hget]
    simp [hrs]
  have hbef : ∀ j, 0 < j → k = j + 1 → j ∈ s.sink := by
    intro j hj hjk
    by_cases hle : j ≤ start
    · exact h.accepted j hj (hle.trans hs)
    · exact hse j (by omega) (by omega)
  have hm : Orderly { s with sink := s.sink ++ [k] } :=
    { dense := h.dense
      accepted := fun j hj hle => mem_append_left _ (h.accepted j hj hle)
      inOrder := h.inOrder.concat hbef
      held := fun q c hc => (h.held q c hc).mono le_rfl le_rfl (subset_append_left _ _)
      completed := h.completed }
  refine hm.setHeld publisher fun c hc => ?_
  obtain rfl := Option.some.inj hc
  refine ⟨start,size,hrs,hs,hsi,fun j hj hle => ?_⟩
  by_cases hold : j ≤ start + b.sent
  · exact mem_append_left _ (hse j hj hold)
  · refine mem_append_right _ (mem_singleton.mpr ?_)
    dsimp only at hle
    omega

theorem complete (hb : s.held publisher = some b) (hall : b.sent = b.records.length)
    (hc : s.outbox.complete workerId b.records = .ok o) :
    Orderly { s with outbox := o, completed := s.completed ++ [b.records] } ∧
      o.rows.length = s.outbox.rows.length := by
  obtain ⟨start,size,hrs,hs,hsi,hse⟩ := h.held publisher b hb
  rw [hall, hrs, length_range'] at hse
  rw [hrs] at hc
  obtain ⟨hde,hl,⟨hz,rfl⟩ | ⟨hcp,hmo⟩⟩ := h.dense.complete_ok hsi hc
  · have he : b.records = [] := by rw [hrs, hz]; rfl
    exact ⟨{ h with completed := by simpa [he] using h.completed },rfl⟩
  · have hgr : s.outbox.checkpoint ≤ o.checkpoint := by omega
    refine ⟨⟨hde,fun k hk hle => ?_,h.inOrder,fun q c hq => ?_,?_⟩,hl⟩
    · by_cases hold : k ≤ s.outbox.checkpoint
      · exact h.accepted k hk hold
      · exact hse k (by omega) (hle.trans hmo.le)
    · exact (h.held q c hq).mono hgr hl.ge (List.Subset.refl _)
    · rw [flatten_concat, h.completed, hrs, hmo, hcp, Nat.add_comm _ 1, List.range'_append_1]

end

/-- A step of a publisher keeps the invariant and the number of rows. -/
theorem step (h : Orderly s) (publisher : Nat) (workerId : String) (action : Action E) :
    Orderly (s.step publisher workerId action) ∧
      (s.step publisher workerId action).outbox.rows.length = s.outbox.rows.length := by
  cases action with
  | claim =>
    rw [Publishing.step]
    split
    · next records o _ hc =>
      obtain ⟨hde,hcp,hl,hn,hs⟩ := h.dense.claim_ok hc
      refine ⟨(h.outbox hde hcp hl.ge).setHeld publisher fun b hb => ?_,hl⟩
      obtain rfl := Option.some.inj hb
      refine ⟨s.outbox.checkpoint,records.length,hn,hcp.ge,hs.trans hl.ge,fun k hk hle => ?_⟩
      exact absurd hk (Nat.not_lt.mpr hle)
    · exact ⟨h,rfl⟩
  | send =>
    rw [Publishing.step]
    split
    · exact ⟨h,rfl⟩
    · next b hb =>
      split
      · exact ⟨h,rfl⟩
      · next k hk => exact ⟨h.send hb hk,rfl⟩
  | complete =>
    rw [Publishing.step]
    split
    · exact ⟨h,rfl⟩
    · next b hb =>
      split
      · exact ⟨h,rfl⟩
      · next hall =>
        split
        · exact ⟨h.drop publisher,rfl⟩
        · next o hc =>
          obtain ⟨hne,hl⟩ := h.complete hb (not_not.mp hall) hc
          exact ⟨hne.drop publisher,hl⟩
  | fail postpone =>
    rw [Publishing.step]
    split
    · exact ⟨h,rfl⟩
    · next b hb =>
      obtain ⟨hde,hcp,hl⟩ := h.dense.fail workerId postpone b.records
      exact ⟨(h.outbox hde hcp hl.ge).drop publisher,hl⟩
  | crash => exact ⟨h.drop publisher,rfl⟩

theorem pairwise_disjoint (h : Orderly s) : s.completed.Pairwise List.Disjoint := by
  have hnd : s.completed.flatten.Nodup := by
    rw [h.completed]
    exact nodup_range'
  exact (nodup_flatten.mp hnd).2

end Orderly

end BpmpPlatform.Publication
