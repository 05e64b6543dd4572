import Mathlib.Data.List.Nodup
import Mathlib.Data.List.Perm.Subperm
import SolTradeRouter.Dedup

/-!
# What the replay filter lets through

Two results on the filter of `Dedup`, over runs of any length.

However its stream is polled, and whatever the stream inside answers, the filter
invents nothing: a message is passed on at most as often as it came in. And it
loses nothing without a reason: a message that is neither passed on nor held
either has the key of one that was passed on, or belonged to a block that was
announced again just as it had been passed on. What the filter remembers is
what carries this: it only ever remembers keys it has passed on. It may pass on
two messages of one key: what it holds for a slot in flight at a reconnect is let
through when the block is announced, whether or not it was passed on before.

The other result is on what is taken for new. While the filter retains a slot, and
no new bank is created for it, a key of the slot is recognised as new only once,
reconnects or not; and a slot is forgotten only when the window is full of
others.
-/

namespace Yellowstone

open Simulation

namespace DedupState

variable {st : DedupState} {slot s : UInt64} {key k : DedupKey}

/-! ## The window -/

/-- The filter remembers something of the slot. -/
def Tracked (st : DedupState) (slot : UInt64) : Prop :=
  st.inflight slot ≠ none ∨ st.sealedSlots slot ≠ none

/-- **Pruning forgets the front of the order**, and nothing else. -/
theorem pruneFrom_eq (l : List UInt64) (st : DedupState) :
    st.pruneFrom l = { st with
      inflight := fun s => if s ∈ l.take (l.length - st.slotRetention) then none
        else st.inflight s
      sealedSlots := fun s => if s ∈ l.take (l.length - st.slotRetention) then none
        else st.sealedSlots s
      slotOrder := l.drop (l.length - st.slotRetention) } := by
  induction l generalizing st with
  | nil => simp [pruneFrom]
  | cons head rest ih =>
    unfold pruneFrom
    split
    · rename_i hlong
      have hcount : (head :: rest).length - st.slotRetention
          = (rest.length - st.slotRetention) + 1 := by
        rw [List.length_cons] at hlong ⊢
        omega
      rw [ih, hcount]
      simp only [List.take_succ_cons, List.drop_succ_cons, List.mem_cons, DedupState.mk.injEq,
        and_true]
      constructor <;> funext s <;> by_cases hs : s = head <;> simp [assign, hs]
    · rename_i hshort
      have hcount : (head :: rest).length - st.slotRetention = 0 := by omega
      rw [hcount]
      simp

/-- How many slots are forgotten. -/
def excess (st : DedupState) : ℕ := st.slotOrder.length - st.slotRetention

/-- Pruning forgets the oldest slots, as many as are too many. -/
theorem prune_eq (st : DedupState) : st.prune = { st with
    inflight := fun s => if s ∈ st.slotOrder.take st.excess then none else st.inflight s
    sealedSlots := fun s => if s ∈ st.slotOrder.take st.excess then none else st.sealedSlots s
    slotOrder := st.slotOrder.drop st.excess } :=
  pruneFrom_eq st.slotOrder st

/-- **The slots and their order**: a slot is in flight or sealed, not both; those
in flight are listed; what is listed is tracked, and listed once. -/
structure Listed (st : DedupState) : Prop where
  apart : ∀ {s}, st.inflight s ≠ none → st.sealedSlots s = none
  listed : ∀ {s}, st.inflight s ≠ none → s ∈ st.slotOrder
  tracked : ∀ {s}, s ∈ st.slotOrder → st.Tracked s
  nodup : st.slotOrder.Nodup

/-- They fit the window as well. -/
structure Ordered (st : DedupState) : Prop extends Listed st where
  bounded : st.slotOrder.length ≤ st.slotRetention

/-- Without repetitions, what is dropped from a list is gone from it. -/
theorem mem_drop_of_nodup {l : List UInt64} (h : l.Nodup) {n : ℕ} {a : UInt64} :
    a ∈ l.drop n ↔ a ∈ l ∧ a ∉ l.take n := by
  have hsplit := List.take_append_drop n l
  have hdisjoint := (List.nodup_append.mp (hsplit ▸ h)).2.2
  constructor
  · exact fun ha => ⟨List.mem_of_mem_drop ha, fun hb => hdisjoint a hb a ha rfl⟩
  · rintro ⟨ha, hb⟩
    rw [← hsplit] at ha
    exact (List.mem_append.mp ha).resolve_left hb

/-- Pruning restores the bound. -/
theorem Listed.prune (h : st.Listed) : st.prune.Ordered := by
  rw [prune_eq]
  refine ⟨⟨fun {s} hs => ?_, fun {s} hs => ?_, fun {s} hs => ?_, ?_⟩, ?_⟩
  · dsimp only at hs ⊢
    split
    · rfl
    · rename_i hkept
      rw [if_neg hkept] at hs
      exact h.apart hs
  · dsimp only at hs ⊢
    split at hs
    · exact absurd rfl hs
    · rename_i hkept
      exact (mem_drop_of_nodup h.nodup).mpr ⟨h.listed hs, hkept⟩
  · obtain ⟨hlisted, hkept⟩ := (mem_drop_of_nodup h.nodup).mp hs
    have htracked := h.tracked hlisted
    unfold Tracked
    dsimp only
    rw [if_neg hkept, if_neg hkept]
    exact htracked
  · exact h.nodup.sublist (List.drop_sublist _ _)
  · show (st.slotOrder.drop st.excess).length ≤ st.slotRetention
    rw [List.length_drop, excess]
    omega

/-- What the filter remembers of a slot: in flight, and sealed. -/
def record (st : DedupState) (slot : UInt64) : Option SlotState × Option SealedSlot :=
  (st.inflight slot, st.sealedSlots slot)

/-- **A slot forgotten for want of room**: the window is full of others. -/
structure CrowdedOut (st : DedupState) (slot : UInt64) : Prop where
  record_eq : st.record slot = (none, none)
  full : st.slotOrder.length = st.slotRetention
  unlisted : slot ∉ st.slotOrder

/-- What pruning forgets, it forgets for want of room. -/
theorem Listed.prune_record (h : st.Listed) (s : UInt64) :
    st.prune.record s = st.record s ∨ st.prune.CrowdedOut s := by
  rw [prune_eq]
  by_cases hfront : s ∈ st.slotOrder.take st.excess
  · refine .inr ⟨?_, ?_, fun hmem => ((mem_drop_of_nodup h.nodup).mp hmem).2 hfront⟩
    · unfold record
      dsimp only
      rw [if_pos hfront, if_pos hfront]
    · have hpos : st.excess ≠ 0 := by
        intro hzero
        simp [hzero] at hfront
      show (st.slotOrder.drop st.excess).length = st.slotRetention
      rw [List.length_drop]
      unfold excess at hpos ⊢
      omega
  · refine .inl ?_
    unfold record
    dsimp only
    rw [if_neg hfront, if_neg hfront]

/-! ## What an observation does to the slots -/

/-- Entering a slot seals none. -/
theorem sealedSlots_enter : (st.enter slot).sealedSlots = st.sealedSlots := by
  unfold enter
  split <;> rfl

/-- Entering a slot lists it, once. -/
theorem Listed.mem_enter (h : st.Listed) (hopen : st.sealedSlots slot = none) {s : UInt64} :
    s ∈ (st.enter slot).slotOrder ↔ s ∈ st.slotOrder ∨ s = slot := by
  unfold enter
  split
  · exact List.mem_append.trans (or_congr_right List.mem_singleton)
  · rename_i hknown
    refine ⟨.inl, fun hs => hs.elim id ?_⟩
    rintro rfl
    exact h.listed fun hnone => hknown ⟨hnone, hopen⟩

/-- A slot that is not sealed is in flight with the given state. -/
theorem Listed.fly (h : st.Listed) (state : SlotState) (hopen : st.sealedSlots slot = none) :
    Listed { st.enter slot with inflight := assign st.inflight slot (some state) } := by
  constructor
  · intro s hs
    dsimp only at hs ⊢
    rw [sealedSlots_enter]
    by_cases heq : s = slot
    · exact heq ▸ hopen
    · rw [assign_of_ne heq] at hs
      exact h.apart hs
  · intro s hs
    dsimp only at hs ⊢
    refine (h.mem_enter hopen).mpr ?_
    by_cases heq : s = slot
    · exact .inr heq
    · rw [assign_of_ne heq] at hs
      exact .inl (h.listed hs)
  · intro s hs
    unfold Tracked
    dsimp only
    rw [sealedSlots_enter]
    by_cases heq : s = slot
    · rw [heq, assign_same]
      exact .inl nofun
    · rw [assign_of_ne heq]
      exact h.tracked (((h.mem_enter hopen).mp hs).resolve_right heq)
  · show (st.enter slot).slotOrder.Nodup
    unfold enter
    split
    · rename_i hfresh
      refine List.nodup_append.mpr ⟨h.nodup, List.nodup_singleton slot, ?_⟩
      rintro a ha b hb rfl
      rw [List.mem_singleton.mp hb] at ha
      exact (h.tracked ha).elim (absurd hfresh.1) (absurd hfresh.2)
    · exact h.nodup

/-- A slot becomes sealed, or stays so, with the given remains. -/
theorem Listed.seal (h : st.Listed) (slot : UInt64) (v : SealedSlot) :
    Listed { st with
      inflight := assign st.inflight slot none
      sealedSlots := assign st.sealedSlots slot (some v) } := by
  constructor
  · intro s hs
    dsimp only at hs ⊢
    by_cases heq : s = slot
    · rw [heq, assign_same] at hs
      exact absurd rfl hs
    · rw [assign_of_ne heq] at hs ⊢
      exact h.apart hs
  · intro s hs
    dsimp only at hs ⊢
    by_cases heq : s = slot
    · rw [heq, assign_same] at hs
      exact absurd rfl hs
    · rw [assign_of_ne heq] at hs
      exact h.listed hs
  · intro s hs
    unfold Tracked
    dsimp only
    by_cases heq : s = slot
    · rw [heq, assign_same, assign_same]
      exact .inr nofun
    · rw [assign_of_ne heq, assign_of_ne heq]
      exact h.tracked hs
  · exact h.nodup

/-- A slot that is sealed is not in flight. -/
theorem Listed.landed (h : st.Listed) (hsealed : st.sealedSlots slot ≠ none) :
    assign st.inflight slot none = st.inflight := by
  funext s
  by_cases heq : s = slot
  · rw [heq, assign_same]
    by_contra hflying
    exact hsealed (h.apart (Ne.symm hflying))
  · exact assign_of_ne heq

/-- A sealed slot may be sealed again. -/
theorem Listed.reseal (h : st.Listed) (v : SealedSlot) (hsealed : st.sealedSlots slot ≠ none) :
    Listed { st with sealedSlots := assign st.sealedSlots slot (some v) } := by
  have hseal := h.seal slot v
  rw [h.landed hsealed] at hseal
  exact hseal

/-- A cleared slot leaves the others in order. -/
theorem Ordered.clearSlot (h : st.Ordered) (slot : UInt64) : (st.clearSlot slot).Ordered := by
  have hmem : ∀ {s}, s ∈ (st.clearSlot slot).slotOrder ↔ s ∈ st.slotOrder ∧ s ≠ slot := by
    intro s
    simp [DedupState.clearSlot, List.mem_filter]
  refine ⟨⟨fun {s} hs => ?_, fun {s} hs => ?_, fun {s} hs => ?_, ?_⟩, ?_⟩
  · dsimp only [DedupState.clearSlot] at hs ⊢
    by_cases heq : s = slot
    · rw [heq, assign_same]
    · rw [assign_of_ne heq] at hs ⊢
      exact h.apart hs
  · refine hmem.mpr ?_
    dsimp only [DedupState.clearSlot] at hs
    by_cases heq : s = slot
    · rw [heq, assign_same] at hs
      exact absurd rfl hs
    · rw [assign_of_ne heq] at hs
      exact ⟨h.listed hs, heq⟩
  · obtain ⟨hlisted, hne⟩ := hmem.mp hs
    unfold Tracked DedupState.clearSlot
    dsimp only
    rw [assign_of_ne hne, assign_of_ne hne]
    exact h.tracked hlisted
  · exact h.nodup.filter _
  · exact (List.length_filter_le _ _).trans h.bounded

/-- And so does the preparation for a replay. -/
theorem Ordered.prepareForReplay (h : st.Ordered) : st.prepareForReplay.Ordered := by
  refine ⟨⟨fun {s} hs => absurd rfl hs, fun {s} hs => absurd rfl hs, fun {s} hs => .inr ?_,
    h.nodup⟩, h.bounded⟩
  have htracked := h.tracked hs
  unfold Tracked at htracked
  dsimp only [DedupState.prepareForReplay]
  cases hflying : st.inflight s with
  | some state => nofun
  | none => exact htracked.resolve_left fun hne => hne hflying

/-! ## One slot's part -/

/-- What becomes of a status, and of the slot's record. -/
def classifyStatus (r : Option SlotState × Option SealedSlot) (status : Int32) :
    Observation × Option SlotState × Option SealedSlot :=
  match r.2 with
  | some v =>
    if status ∈ v.statuses then (.duplicate, r)
    else (.new, r.1, some { v with statuses := status :: v.statuses })
  | none =>
    let state := r.1.getD .default
    if status ∈ state.statuses then (.duplicate, r)
    else (.new, some { state with statuses := status :: state.statuses }, none)

/-- What becomes of a BlockMeta. -/
def classifyBlockMeta (r : Option SlotState × Option SealedSlot) (blockhash : String) :
    Observation × Option SlotState × Option SealedSlot :=
  match r.2 with
  | some v =>
    (.replayComplete (v.blockhash = some blockhash), r.1,
      some { v with blockhash := some blockhash })
  | none => (.new, none, some ⟨some blockhash, (r.1.getD .default).statuses⟩)

/-- What becomes of anything else. -/
def classifyPayload (r : Option SlotState × Option SealedSlot) (payload : DedupKey) :
    Observation × Option SlotState × Option SealedSlot :=
  if r.2.isSome then (.replay, r)
  else
    let state := r.1.getD .default
    if payload ∈ state.keys then (.duplicate, r)
    else (.new, some { state with keys := payload :: state.keys }, none)

/-- **The filter, seen from one slot**: what is remembered of it decides what
becomes of a key, and what is remembered afterwards. -/
def classify [SlotStatus] (r : Option SlotState × Option SealedSlot) :
    DedupKey → Observation × Option SlotState × Option SealedSlot
  | .slot status =>
    classifyStatus (if status = SlotStatus.slotCreatedBank then (none, none) else r) status
  | .blockMeta blockhash => classifyBlockMeta r blockhash
  | payload => classifyPayload r payload

/-- What is left of a slot at a reconnect. -/
def promote (r : Option SlotState × Option SealedSlot) : Option SlotState × Option SealedSlot :=
  match r.1 with
  | some state => (none, some ⟨none, state.statuses⟩)
  | none => (none, r.2)

/-- How an observation of one slot changes the state: that slot as `classify`
says, no other, but for those crowded out. -/
structure Observed (st : DedupState) (slot : UInt64)
    (c : Observation × Option SlotState × Option SealedSlot)
    (after : Observation × DedupState) : Prop where
  observation : after.1 = c.1
  ordered : after.2.Ordered
  record_eq : ∀ s, after.2.record s = (if s = slot then c.2 else st.record s)
    ∨ after.2.CrowdedOut s

/-- Nothing changes. -/
theorem Ordered.unchanged (h : st.Ordered) (o : Observation) :
    Observed st slot (o, st.record slot) (o, st) :=
  ⟨rfl, h, fun s => .inl (by split <;> rename_i heq <;> simp [heq])⟩

/-- The slot is given a record, and the state is pruned. -/
theorem Listed.pruned {st' : DedupState} (h : st'.Listed) {o : Observation}
    {r : Option SlotState × Option SealedSlot} (hslot : st'.record slot = r)
    (hother : ∀ s, s ≠ slot → st'.record s = st.record s) :
    Observed st slot (o, r) (o, st'.prune) := by
  refine ⟨rfl, h.prune, fun s => (h.prune_record s).imp_left fun hrecord => ?_⟩
  rw [hrecord]
  split
  · rename_i heq
    rw [heq, hslot]
  · rename_i hne
    exact hother s hne

/-- A slot that is not sealed gets the given state, and the state is pruned. -/
theorem Listed.flown (h : st.Listed) (state : SlotState) (hopen : st.sealedSlots slot = none)
    (o : Observation) :
    Observed st slot (o, some state, none)
      (o, DedupState.prune
        { st.enter slot with inflight := assign st.inflight slot (some state) }) := by
  refine (h.fly state hopen).pruned ?_ fun s hne => ?_
  · unfold record
    dsimp only
    rw [assign_same, sealedSlots_enter, hopen]
  · unfold record
    dsimp only
    rw [assign_of_ne hne, sealedSlots_enter]

/-- A slot that is sealed is sealed anew. -/
theorem Ordered.resealed (h : st.Ordered) (v : SealedSlot) (hsealed : st.sealedSlots slot ≠ none)
    (o : Observation) :
    Observed st slot (o, (st.record slot).1, some v)
      (o, { st with sealedSlots := assign st.sealedSlots slot (some v) }) := by
  refine ⟨rfl, ⟨h.toListed.reseal v hsealed, h.bounded⟩, fun s => .inl ?_⟩
  unfold record
  dsimp only
  by_cases heq : s = slot
  · rw [if_pos heq, heq, assign_same]
  · rw [if_neg heq, assign_of_ne heq]

/-- A status is recorded as it was classified. -/
theorem Ordered.observeStatus (h : st.Ordered) (slot : UInt64) (status : Int32) :
    Observed st slot (classifyStatus (st.record slot) status) (st.observeStatus slot status) := by
  unfold DedupState.observeStatus classifyStatus
  cases hclosed : st.sealedSlots slot with
  | some v =>
    have hrecord : (st.record slot).2 = some v := hclosed
    rw [hrecord]
    dsimp only
    split
    · exact h.unchanged _
    · exact h.resealed _ (Option.ne_none_iff_exists'.mpr ⟨v, hclosed⟩) _
  | none =>
    have hrecord : (st.record slot).2 = none := hclosed
    have hstate : (st.record slot).1.getD .default = st.slotState slot := rfl
    rw [hrecord, hstate]
    dsimp only
    by_cases hmem : status ∈ (st.slotState slot).statuses
    · rw [if_pos hmem, if_pos hmem]
      exact h.unchanged _
    · rw [if_neg hmem, if_neg hmem]
      exact h.toListed.flown _ hclosed _

/-- And so is the metadata of a block. -/
theorem Ordered.observeBlockMeta (h : st.Ordered) (blockhash : String) :
    Observed st slot (classifyBlockMeta (st.record slot) blockhash)
      (st.observeBlockMeta slot blockhash) := by
  unfold DedupState.observeBlockMeta classifyBlockMeta
  cases hclosed : st.sealedSlots slot with
  | some v =>
    have hrecord : (st.record slot).2 = some v := hclosed
    rw [hrecord]
    exact h.resealed _ (Option.ne_none_iff_exists'.mpr ⟨v, hclosed⟩) _
  | none =>
    have hrecord : (st.record slot).2 = none := hclosed
    rw [hrecord]
    refine (h.toListed.seal _ _).pruned ?_ fun s hne => ?_
    · unfold record
      dsimp only
      rw [assign_same, assign_same]
      rfl
    · unfold record
      dsimp only
      rw [assign_of_ne hne, assign_of_ne hne]

/-- And any payload. -/
theorem Ordered.observePayload (h : st.Ordered) (payload : DedupKey) :
    Observed st slot (classifyPayload (st.record slot) payload)
      (st.observePayload slot payload) := by
  unfold DedupState.observePayload classifyPayload
  cases hclosed : st.sealedSlots slot with
  | some v =>
    have hrecord : (st.record slot).2 = some v := hclosed
    rw [hrecord]
    exact h.unchanged _
  | none =>
    have hrecord : (st.record slot).2 = none := hclosed
    have hstate : (st.record slot).1.getD .default = st.slotState slot := rfl
    rw [hrecord, hstate]
    simp only [Option.isSome_none, Bool.false_eq_true, if_false]
    by_cases hmem : payload ∈ (st.slotState slot).keys
    · rw [if_pos hmem, if_pos hmem]
      exact h.unchanged _
    · rw [if_neg hmem, if_neg hmem]
      exact h.toListed.flown _ hclosed _

/-- A slot that was cleared has no record; the others keep theirs. -/
theorem record_clearSlot (st : DedupState) (slot s : UInt64) :
    (st.clearSlot slot).record s = if s = slot then (none, none) else st.record s := by
  unfold record DedupState.clearSlot
  dsimp only
  split
  · rename_i heq
    rw [heq, assign_same, assign_same]
  · rename_i hne
    rw [assign_of_ne hne, assign_of_ne hne]

/-- **What the filter does to a slot is decided by the slot alone**, and to the
others it does nothing but to crowd them out. -/
theorem Ordered.observe [SlotStatus] (h : st.Ordered) (slot : UInt64) (key : DedupKey) :
    Observed st slot (classify (st.record slot) key) (st.observe slot key) := by
  cases key with
  | slot status =>
    unfold DedupState.observe classify
    by_cases hcreated : status = SlotStatus.slotCreatedBank
    · dsimp only
      rw [if_pos hcreated, if_pos hcreated]
      have hcleared := (h.clearSlot slot).observeStatus slot status
      rw [record_clearSlot, if_pos rfl] at hcleared
      refine ⟨hcleared.observation, hcleared.ordered, fun s => ?_⟩
      refine (hcleared.record_eq s).imp_left fun hs => hs.trans ?_
      split
      · rfl
      · rename_i hne
        rw [record_clearSlot, if_neg hne]
    · dsimp only
      rw [if_neg hcreated, if_neg hcreated]
      exact h.observeStatus slot status
  | blockMeta blockhash => exact h.observeBlockMeta blockhash
  | account _ _ | transaction _ | transactionStatus _ | entry _ | block _
  | deshredTransaction _ => exact h.observePayload _

/-- A replay begins with every slot sealed that was in flight. -/
theorem record_prepareForReplay (st : DedupState) (s : UInt64) :
    st.prepareForReplay.record s = promote (st.record s) := by
  unfold record DedupState.prepareForReplay promote
  dsimp only
  cases st.inflight s <;> rfl

/-! ## What is remembered -/

/-- **The record holds the key**: the filter knows that it has passed it on. -/
def Holds (r : Option SlotState × Option SealedSlot) : DedupKey → Prop
  | .slot status => status ∈ r.1.elim [] SlotState.statuses ∨
    status ∈ r.2.elim [] SealedSlot.statuses
  | .blockMeta blockhash => r.2.bind SealedSlot.blockhash = some blockhash
  | payload => payload ∈ r.1.elim [] SlotState.keys

/-- **The record excludes the key**: it will not be taken for new. -/
def Excludes (r : Option SlotState × Option SealedSlot) : DedupKey → Prop
  | .slot status => Holds r (.slot status)
  | .blockMeta _ => r.2 ≠ none
  | payload => r.2 ≠ none ∨ Holds r payload

/-- A slot without a record holds no key. -/
theorem not_holds_none (k : DedupKey) : ¬ Holds (none, none) k := by
  cases k <;> simp [Holds]

variable {r : Option SlotState × Option SealedSlot}

/-- At a reconnect nothing is remembered that was not. -/
theorem holds_promote (h : Holds (promote r) k) : Holds r k := by
  obtain ⟨flying, closed⟩ := r
  cases flying <;> cases k <;> simp_all [Holds, promote]

/-- **Nor is anything let in again.** -/
theorem excludes_promote (hapart : r.1 = none ∨ r.2 = none) (h : Excludes r k) :
    Excludes (promote r) k := by
  obtain ⟨flying, closed⟩ := r
  cases flying <;> cases k <;> simp_all [Excludes, Holds, promote]

/-- A key that is neither a status nor a BlockMeta. -/
def IsPayload (k : DedupKey) : Prop := (∀ status, k ≠ .slot status) ∧ ∀ hash, k ≠ .blockMeta hash

/-- A payload is held in flight. -/
theorem holds_payload (h : IsPayload k) : Holds r k ↔ k ∈ r.1.elim [] SlotState.keys := by
  cases k with
  | slot status => exact absurd rfl (h.1 status)
  | blockMeta hash => exact absurd rfl (h.2 hash)
  | _ => exact Iff.rfl

/-- And is excluded by a seal, or by being held. -/
theorem excludes_payload (h : IsPayload k) : Excludes r k ↔ r.2 ≠ none ∨ Holds r k := by
  cases k with
  | slot status => exact absurd rfl (h.1 status)
  | blockMeta hash => exact absurd rfl (h.2 hash)
  | _ => exact Iff.rfl

/-- **What is said of statuses, BlockMetas and payloads is said of all keys.** A
new bank starts from an empty record. -/
theorem classify_cases [SlotStatus]
    {P : DedupKey → Observation × Option SlotState × Option SealedSlot → Prop}
    (hcreated : P (.slot SlotStatus.slotCreatedBank)
      (classifyStatus (none, none) SlotStatus.slotCreatedBank))
    (hstatus : ∀ status, status ≠ SlotStatus.slotCreatedBank →
      P (.slot status) (classifyStatus r status))
    (hblock : ∀ hash, P (.blockMeta hash) (classifyBlockMeta r hash))
    (hpayload : ∀ payload, IsPayload payload → P payload (classifyPayload r payload)) :
    P key (classify r key) := by
  cases key with
  | slot status =>
    unfold classify
    by_cases hbank : status = SlotStatus.slotCreatedBank
    · dsimp only
      rw [if_pos hbank, hbank]
      exact hcreated
    · dsimp only
      rw [if_neg hbank]
      exact hstatus status hbank
  | blockMeta hash => exact hblock hash
  | account _ _ | transaction _ | transactionStatus _ | entry _ | block _
  | deshredTransaction _ => exact hpayload _ ⟨nofun, nofun⟩

/-- **What a key does to a record.** The record comes to hold a key only when it
is passed on; a key is dropped only if it is held; and one that was new is
excluded. -/
structure Sound (r : Option SlotState × Option SealedSlot) (key : DedupKey)
    (c : Observation × Option SlotState × Option SealedSlot) : Prop where
  holds : ∀ k, Holds c.2 k → Holds r k ∨ k = key ∧ (c.1 = .new ∨ c.1 = .replayComplete false)
  duplicate : c.1 = .duplicate → Holds r key
  same : c.1 = .replayComplete true → Holds r key
  verdict : ∀ same, c.1 = .replayComplete same → ∃ hash, key = .blockMeta hash
  new : c.1 = .new → Excludes c.2 key

/-- **What was excluded stays so**, and is not new. -/
structure Steady (r : Option SlotState × Option SealedSlot) (key : DedupKey)
    (c : Observation × Option SlotState × Option SealedSlot) : Prop where
  excludes : ∀ k, Excludes r k → Excludes c.2 k
  excluded : Excludes r key → c.1 ≠ .new

/-- A slot not in flight has seen no status. -/
theorem statuses_getD (flying : Option SlotState) :
    (flying.getD .default).statuses = flying.elim [] SlotState.statuses := by
  cases flying <;> rfl

/-- And no key. -/
theorem keys_getD (flying : Option SlotState) :
    (flying.getD .default).keys = flying.elim [] SlotState.keys := by
  cases flying <;> rfl

/-- What a status does to a record is of that kind. -/
theorem classifyStatus_sound (r : Option SlotState × Option SealedSlot) (status : Int32) :
    Sound r (.slot status) (classifyStatus r status) := by
  obtain ⟨flying, closed⟩ := r
  unfold classifyStatus
  cases closed with
  | some v =>
    by_cases hmem : status ∈ v.statuses
    · simp only [hmem, if_true]
      exact ⟨fun k hk => .inl hk, fun _ => .inr hmem, nofun, nofun, nofun⟩
    · simp only [hmem, if_false]
      refine ⟨fun k hk => ?_, nofun, nofun, nofun, fun _ => .inr List.mem_cons_self⟩
      cases k with
      | slot old =>
        obtain hflying | hold := hk
        · exact .inl (.inl hflying)
        · obtain rfl | hold := List.mem_cons.mp hold
          · exact .inr ⟨rfl, .inl rfl⟩
          · exact .inl (.inr hold)
      | _ => exact .inl hk
  | none =>
    simp only [statuses_getD, keys_getD]
    by_cases hmem : status ∈ flying.elim [] SlotState.statuses
    · simp only [hmem, if_true]
      exact ⟨fun k hk => .inl hk, fun _ => .inl hmem, nofun, nofun, nofun⟩
    · simp only [hmem, if_false]
      refine ⟨fun k hk => ?_, nofun, nofun, nofun, fun _ => .inl List.mem_cons_self⟩
      cases k with
      | slot old =>
        obtain rfl | hold := List.mem_cons.mp (hk.resolve_right List.not_mem_nil)
        · exact .inr ⟨rfl, .inl rfl⟩
        · exact .inl (.inl hold)
      | blockMeta hash => cases hk
      | _ => exact .inl hk

/-- So is what the metadata of a block does. -/
theorem classifyBlockMeta_sound (r : Option SlotState × Option SealedSlot) (hash : String) :
    Sound r (.blockMeta hash) (classifyBlockMeta r hash) := by
  obtain ⟨flying, closed⟩ := r
  unfold classifyBlockMeta
  cases closed with
  | some v =>
    refine ⟨fun k hk => ?_, nofun, fun hsame => ?_, fun _ _ => ⟨hash, rfl⟩, nofun⟩
    · cases k with
      | blockMeta old =>
        obtain rfl : hash = old := Option.some.inj hk
        by_cases heq : v.blockhash = some hash
        · exact .inl heq
        · exact .inr ⟨rfl, .inr (by simp [heq])⟩
      | _ => exact .inl hk
    · show v.blockhash = some hash
      exact of_decide_eq_true (Observation.replayComplete.inj hsame)
  | none =>
    simp only [statuses_getD]
    refine ⟨fun k hk => ?_, nofun, nofun, nofun, fun _ => nofun⟩
    cases k with
    | slot old => exact .inl (.inl (hk.resolve_left List.not_mem_nil))
    | blockMeta old => exact .inr ⟨congrArg _ (Option.some.inj hk).symm, .inl rfl⟩
    | _ => exact absurd hk List.not_mem_nil

/-- And what a payload does. -/
theorem classifyPayload_sound (r : Option SlotState × Option SealedSlot) {payload : DedupKey}
    (h : IsPayload payload) : Sound r payload (classifyPayload r payload) := by
  obtain ⟨flying, closed⟩ := r
  unfold classifyPayload
  cases closed with
  | some v => exact ⟨fun k hk => .inl hk, nofun, nofun, nofun, nofun⟩
  | none =>
    simp only [Option.isSome_none, Bool.false_eq_true, if_false, statuses_getD, keys_getD]
    by_cases hmem : payload ∈ flying.elim [] SlotState.keys
    · simp only [hmem, if_true]
      exact ⟨fun k hk => .inl hk, fun _ => (holds_payload h).mpr hmem, nofun, nofun, nofun⟩
    · simp only [hmem, if_false]
      refine ⟨fun k hk => ?_, nofun, nofun, nofun,
        fun _ => (excludes_payload h).mpr (.inr ((holds_payload h).mpr List.mem_cons_self))⟩
      by_cases hk' : IsPayload k
      · obtain rfl | hold := List.mem_cons.mp ((holds_payload hk').mp hk)
        · exact .inr ⟨rfl, .inl rfl⟩
        · exact .inl ((holds_payload hk').mpr hold)
      · cases k with
        | slot old => exact .inl hk
        | blockMeta old => exact .inl hk
        | _ => exact absurd ⟨nofun, nofun⟩ hk'

/-- Starting from an empty record is sound. -/
theorem Sound.fresh {c : Observation × Option SlotState × Option SealedSlot}
    (h : Sound (none, none) key c) : Sound r key c where
  holds k hk := .inr ((h.holds k hk).resolve_left (not_holds_none k))
  duplicate hc := absurd (h.duplicate hc) (not_holds_none key)
  same hc := absurd (h.same hc) (not_holds_none key)
  verdict := h.verdict
  new := h.new

/-- **Whatever the key, the record knows only what was passed on.** -/
theorem classify_sound [SlotStatus] (r : Option SlotState × Option SealedSlot)
    (key : DedupKey) : Sound r key (classify r key) :=
  classify_cases (classifyStatus_sound _ _).fresh (fun status _ => classifyStatus_sound r status)
    (classifyBlockMeta_sound r) fun _ h => classifyPayload_sound r h

/-- A status keeps what was excluded so, on a record that is not both in flight
and sealed. -/
theorem classifyStatus_steady {r : Option SlotState × Option SealedSlot}
    (hapart : r.1 = none ∨ r.2 = none) (status : Int32) :
    Steady r (.slot status) (classifyStatus r status) := by
  obtain ⟨flying, closed⟩ := r
  unfold classifyStatus
  cases closed with
  | some v =>
    obtain rfl : flying = none := hapart.resolve_right nofun
    by_cases hmem : status ∈ v.statuses
    · simp only [hmem, if_true]
      exact ⟨fun k hk => hk, nofun⟩
    · simp only [hmem, if_false]
      refine ⟨fun k hk => ?_, fun hk => absurd (hk.resolve_left List.not_mem_nil) hmem⟩
      cases k with
      | slot old => exact hk.imp_right (List.mem_cons_of_mem _)
      | blockMeta hash => nofun
      | _ => exact .inl nofun
  | none =>
    simp only [statuses_getD, keys_getD]
    by_cases hmem : status ∈ flying.elim [] SlotState.statuses
    · simp only [hmem, if_true]
      exact ⟨fun k hk => hk, nofun⟩
    · simp only [hmem, if_false]
      refine ⟨fun k hk => ?_, fun hk => absurd (hk.resolve_right List.not_mem_nil) hmem⟩
      cases k with
      | slot old => exact hk.imp_left (List.mem_cons_of_mem _)
      | blockMeta hash => exact absurd rfl hk
      | _ => exact .inr (hk.resolve_left (absurd rfl))

/-- The metadata of a block keeps it so on any. -/
theorem classifyBlockMeta_steady (r : Option SlotState × Option SealedSlot) (hash : String) :
    Steady r (.blockMeta hash) (classifyBlockMeta r hash) := by
  obtain ⟨flying, closed⟩ := r
  unfold classifyBlockMeta
  cases closed with
  | some v =>
    refine ⟨fun k hk => ?_, fun _ => nofun⟩
    cases k with
    | slot old => exact hk
    | blockMeta old => nofun
    | _ => exact .inl nofun
  | none =>
    simp only [statuses_getD]
    refine ⟨fun k hk => ?_, absurd rfl⟩
    cases k with
    | slot old => exact .inr (hk.resolve_right List.not_mem_nil)
    | blockMeta old => nofun
    | _ => exact .inl nofun

/-- And a payload does. -/
theorem classifyPayload_steady (r : Option SlotState × Option SealedSlot) {payload : DedupKey}
    (h : IsPayload payload) : Steady r payload (classifyPayload r payload) := by
  obtain ⟨flying, closed⟩ := r
  unfold classifyPayload
  cases closed with
  | some v => exact ⟨fun k hk => hk, fun _ => nofun⟩
  | none =>
    simp only [Option.isSome_none, Bool.false_eq_true, if_false, statuses_getD, keys_getD]
    by_cases hmem : payload ∈ flying.elim [] SlotState.keys
    · simp only [hmem, if_true]
      exact ⟨fun k hk => hk, fun _ => nofun⟩
    · simp only [hmem, if_false]
      refine ⟨fun k hk => ?_, fun hk => ?_⟩
      · cases k with
        | slot old => exact hk
        | blockMeta old => exact hk
        | _ => exact hk.imp_right (List.mem_cons_of_mem _)
      · exact absurd ((holds_payload h).mp
          (((excludes_payload h).mp hk).resolve_left (absurd rfl))) hmem

/-- **But for a new bank of the slot, every key is excluded for good.** -/
theorem classify_steady [SlotStatus] (hapart : r.1 = none ∨ r.2 = none)
    (hkey : key ≠ .slot SlotStatus.slotCreatedBank) : Steady r key (classify r key) := by
  revert hkey
  refine classify_cases (P := fun key c => key ≠ .slot SlotStatus.slotCreatedBank →
    Steady r key c) (absurd rfl) (fun status _ _ => classifyStatus_steady hapart status)
    (fun hash _ => classifyBlockMeta_steady r hash) fun payload h _ => ?_
  exact classifyPayload_steady r h

/-! ## Runs of the state -/

/-- A key is observed, or the connection was renewed. -/
inductive Event where
  | observe (slot : UInt64) (key : DedupKey) (observation : Observation)
  | reconnect

variable [SlotStatus]

/-- A step of the deduplication: an observation, or a reconnect. -/
inductive Step : DedupState → Event → DedupState → Prop
  | observe (st : DedupState) (slot : UInt64) (key : DedupKey) :
    Step st (.observe slot key (st.observe slot key).1) (st.observe slot key).2
  | reconnect (st : DedupState) : Step st .reconnect st.prepareForReplay

omit [SlotStatus] in
/-- It begins in order. -/
theorem withSlotRetention_ordered (n : ℕ) : (withSlotRetention n).Ordered where
  apart _ := rfl
  listed h := absurd rfl h
  tracked h := absurd h List.not_mem_nil
  nodup := List.nodup_nil
  bounded := Nat.zero_le n

/-- And every step keeps it. -/
theorem Step.ordered {st' : DedupState} {e : Event} (h : st.Ordered) (hstep : Step st e st') :
    st'.Ordered := by
  cases hstep with
  | observe slot key => exact (h.observe slot key).ordered
  | reconnect => exact h.prepareForReplay

omit [SlotStatus] in
/-- No slot is both in flight and sealed. -/
theorem Ordered.record_apart (h : st.Ordered) (s : UInt64) :
    (st.record s).1 = none ∨ (st.record s).2 = none := by
  by_cases hflying : st.inflight s = none
  · exact .inl hflying
  · exact .inr (h.apart hflying)

/-- A run of one observation. -/
theorem single_observe {st' : DedupState} {o : Observation}
    (h : Steps Step st [.observe s k o] st') :
    (st.observe s k).1 = o ∧ st' = (st.observe s k).2 := by
  generalize hes : [Event.observe s k o] = es at h
  cases h with
  | nil => cases hes
  | cons hstep hrest =>
    obtain ⟨he, hnil⟩ := List.cons_eq_cons.mp hes
    subst hnil
    cases hrest
    cases hstep with
    | observe slot key =>
      injection he with hslot hkey ho
      subst hslot hkey
      exact ⟨ho.symm, rfl⟩
    | reconnect => cases he

/-- **A step keeps what is excluded**, unless the slot is crowded out. -/
theorem Step.excludes {st' : DedupState} {e : Event} (h : st.Ordered) (hstep : Step st e st')
    (hbank : ∀ o, e ≠ .observe s (.slot SlotStatus.slotCreatedBank) o)
    (hk : Excludes (st.record s) k) : Excludes (st'.record s) k ∨ st'.CrowdedOut s := by
  cases hstep with
  | observe slot key =>
    refine ((h.observe slot key).record_eq s).imp_left fun hrecord => ?_
    rw [hrecord]
    split
    · rename_i heq
      subst heq
      have hkey : key ≠ .slot SlotStatus.slotCreatedBank := fun hkey => hbank _ (by rw [hkey])
      exact (classify_steady (h.record_apart s) hkey).excludes k hk
    · exact hk
  | reconnect =>
    refine .inl ?_
    rw [record_prepareForReplay]
    exact excludes_promote (h.record_apart s) hk

/-- **So does a run.** -/
theorem run_excludes {st' : DedupState} {es : List Event} (hrun : Steps Step st es st')
    (h : st.Ordered) (hbank : ∀ o, .observe s (.slot SlotStatus.slotCreatedBank) o ∉ es)
    (hk : Excludes (st.record s) k) : Excludes (st'.record s) k
      ∨ ∃ es₁ es₂ mid, es = es₁ ++ es₂ ∧ Steps Step st es₁ mid ∧ mid.CrowdedOut s := by
  induction hrun with
  | nil => exact .inl hk
  | @cons st mid _ e es hstep hrest ih =>
    have hfirst : ∀ o, e ≠ .observe s (.slot SlotStatus.slotCreatedBank) o :=
      fun o heq => hbank o (heq ▸ List.mem_cons_self)
    obtain hkept | hcrowded := hstep.excludes h hfirst hk
    · have hbankRest := fun o ho => hbank o (List.mem_cons_of_mem _ ho)
      refine (ih (hstep.ordered h) hbankRest hkept).imp_right ?_
      rintro ⟨es₁, es₂, m, rfl, hmid, hcrowded⟩
      exact ⟨e :: es₁, es₂, m, rfl, .cons hstep hmid, hcrowded⟩
    · exact .inr ⟨[e], es, mid, rfl, .single hstep, hcrowded⟩

/-- **A key is new once.** In any run of observations and reconnects, a key that
was new for a slot, and is not that a bank was created, is not new again, unless
a bank was created for the slot in between, or the slot was crowded out of the
window: at some point in between the window was full, and the slot not in it. -/
theorem key_new_once {n : ℕ} {st' : DedupState} {before between : List Event}
    (hrun : Steps Step (withSlotRetention n)
      (before ++ [.observe s k .new] ++ between ++ [.observe s k .new]) st')
    (hk : k ≠ .slot SlotStatus.slotCreatedBank)
    (hbank : ∀ o, .observe s (.slot SlotStatus.slotCreatedBank) o ∉ between) :
    ∃ es₁ es₂ mid, between = es₁ ++ es₂
      ∧ Steps Step (withSlotRetention n) (before ++ [.observe s k .new] ++ es₁) mid
      ∧ mid.slotOrder.length = mid.slotRetention ∧ s ∉ mid.slotOrder := by
  obtain ⟨last, hbetween, hlast⟩ := hrun.split
  obtain ⟨second, hfirst, hbetween⟩ := hbetween.split
  obtain ⟨first, hbefore, hnew⟩ := hfirst.split
  have hordered : first.Ordered :=
    hbefore.keeps (fun _ _ _ h hstep => hstep.ordered h) (withSlotRetention_ordered n)
  obtain ⟨hnewFirst, rfl⟩ := single_observe hnew
  obtain ⟨hnewLast, -⟩ := single_observe hlast
  have hobserved := hordered.observe s k
  have hclassified : (classify (first.record s) k).1 = .new :=
    hobserved.observation ▸ hnewFirst
  -- After the first observation the key is excluded, or the slot is gone already.
  obtain hrecord | hcrowded := hobserved.record_eq s
  · rw [if_pos rfl] at hrecord
    have hexcluded : Excludes ((first.observe s k).2.record s) k :=
      hrecord ▸ (classify_sound _ _).new hclassified
    obtain hkept | ⟨es₁, es₂, mid, hes, hmid, hcrowded⟩ :=
      run_excludes hbetween hobserved.ordered hbank hexcluded
    · have hlastOrdered : last.Ordered :=
        hbetween.keeps (fun _ _ _ h hstep => hstep.ordered h) hobserved.ordered
      have hagain := (hlastOrdered.observe s k).observation
      rw [hnewLast] at hagain
      exact absurd hagain.symm ((classify_steady (hlastOrdered.record_apart s) hk).excluded hkept)
    · exact ⟨es₁, es₂, mid, hes, (hbefore.append hnew).append hmid, hcrowded.full,
        hcrowded.unlisted⟩
  · exact ⟨[], between, _, rfl, (List.append_nil (before ++ [Event.observe s k .new])).symm ▸
      hbefore.append hnew, hcrowded.full, hcrowded.unlisted⟩

omit [SlotStatus] in
/-- In a window of one slot, a second slot crowds the first out. -/
theorem crowded_new_again :
    letI : SlotStatus := ⟨5⟩
    ∃ es₁ es₂ mid, [Event.observe 2 (.transaction 0) .new] = es₁ ++ es₂
      ∧ Steps Step (withSlotRetention 1) ([] ++ [.observe 1 (.transaction 0) .new] ++ es₁) mid
      ∧ mid.slotOrder.length = mid.slotRetention ∧ 1 ∉ mid.slotOrder := by
  let : SlotStatus := ⟨5⟩
  obtain ⟨st', hrun⟩ : ∃ st', Steps Step (withSlotRetention 1)
      ([] ++ [.observe 1 (.transaction 0) .new] ++ [.observe 2 (.transaction 0) .new]
        ++ [.observe 1 (.transaction 0) .new]) st' :=
    ⟨_, .cons (.observe _ 1 (.transaction 0)) (.cons (.observe _ 2 (.transaction 0))
      (.cons (.observe _ 1 (.transaction 0)) (.nil _)))⟩
  exact key_new_once hrun nofun fun o ho => by simp at ho

end DedupState

namespace DedupStream

open DedupState

variable {T ε : Type} [Dedupable T]

/-! ## What becomes of messages -/

/-- What is held, whatever its slot. -/
def held (s : DedupStream T) : List T := s.quarantine.map Prod.snd

/-- A message with the key of one that was passed on. -/
def Repeated (passed : List T) (m : T) : Prop :=
  ∃ slot key, Dedupable.extractKey m = some (slot, key)
    ∧ ∃ m' ∈ passed, Dedupable.extractKey m' = some (slot, key)

/-- A message of a block that was passed on, and after the message was announced
again, with the same hash. -/
def Confirmed (received passed : List T) (m : T) : Prop :=
  ∃ slot key hash, Dedupable.extractKey m = some (slot, key)
    ∧ (∃ b ∈ passed, Dedupable.extractKey b = some (slot, .blockMeta hash))
    ∧ ∃ b, Dedupable.extractKey b = some (slot, .blockMeta hash) ∧ [m, b].Sublist received

/-- **An account of the messages received**, those passed on, and the filter. Each
was passed on or is held at most once; what the filter remembers was passed on;
and what is neither passed on nor held is repeated or confirmed. -/
structure Accounts (received passed : List T) (s : DedupStream T) : Prop where
  ordered : s.state.Ordered
  labelled : ∀ slot m, (slot, m) ∈ s.quarantine → ∃ key, Dedupable.extractKey m = some (slot, key)
  once : (passed ++ s.held).Subperm received
  remembered : ∀ slot key, Holds (s.state.record slot) key →
    ∃ m ∈ passed, Dedupable.extractKey m = some (slot, key)
  kept : ∀ m ∈ received, m ∈ passed ∨ m ∈ s.held ∨ Repeated passed m
    ∨ Confirmed received passed m

variable {received passed more : List T} {m msg : T} {s : DedupStream T}

/-- What was repeated stays so. -/
theorem Repeated.mono (h : Repeated passed m) (more : List T) : Repeated (passed ++ more) m := by
  obtain ⟨slot, key, hm, m', hmem, hm'⟩ := h
  exact ⟨slot, key, hm, m', List.mem_append_left _ hmem, hm'⟩

/-- And what was confirmed does. -/
theorem Confirmed.mono (h : Confirmed received passed m) (msg : T) (more : List T) :
    Confirmed (received ++ [msg]) (passed ++ more) m := by
  obtain ⟨slot, key, hash, hm, ⟨b, hb, hbkey⟩, b', hb', hsub⟩ := h
  exact ⟨slot, key, hash, hm, ⟨b, List.mem_append_left _ hb, hbkey⟩, b', hb',
    hsub.trans (List.sublist_append_left _ _)⟩

/-- What is held was received. -/
theorem Accounts.mem_received (h : Accounts received passed s) (hm : m ∈ s.held) :
    m ∈ received :=
  h.once.subset (List.mem_append_right _ hm)

/-- What the state remembers was passed on before, or is the key of the message,
passed on now. -/
def Recalls (state : DedupState) (passed more : List T) (msg : T) : Prop :=
  ∀ slot key, Holds (state.record slot) key →
    (∃ m ∈ passed, Dedupable.extractKey m = some (slot, key))
      ∨ msg ∈ more ∧ Dedupable.extractKey msg = some (slot, key)

/-- **The account after one message more.** What was held is still held, or passed
on, or confirmed; the message is passed on, or held, or repeated; and nothing is
remembered that was neither remembered before nor the message's key. -/
theorem Accounts.next (h : Accounts received passed s) {s' : DedupStream T} (msg : T)
    (more : List T) (hordered : s'.state.Ordered)
    (hlabelled : ∀ slot m, (slot, m) ∈ s'.quarantine →
      ∃ key, Dedupable.extractKey m = some (slot, key))
    (honce : (passed ++ more ++ s'.held).Subperm (received ++ [msg]))
    (hrecalls : Recalls s'.state passed more msg)
    (hheld : ∀ m ∈ s.held, m ∈ more ∨ m ∈ s'.held ∨ Confirmed (received ++ [msg]) passed m)
    (hmsg : msg ∈ more ∨ msg ∈ s'.held ∨ Repeated passed msg) :
    Accounts (received ++ [msg]) (passed ++ more) s' := by
  have hconfirmed : ∀ {m}, Confirmed (received ++ [msg]) passed m →
      Confirmed (received ++ [msg]) (passed ++ more) m := by
    rintro m ⟨slot, key, hash, hm, ⟨b, hb, hbkey⟩, hagain⟩
    exact ⟨slot, key, hash, hm, ⟨b, List.mem_append_left _ hb, hbkey⟩, hagain⟩
  refine ⟨hordered, hlabelled, honce, fun slot key hk => ?_, fun m hm => ?_⟩
  · obtain ⟨m, hm, hmkey⟩ | ⟨hm, hmkey⟩ := hrecalls slot key hk
    · exact ⟨m, List.mem_append_left _ hm, hmkey⟩
    · exact ⟨msg, List.mem_append_right _ hm, hmkey⟩
  · obtain hold | hlast := List.mem_append.mp hm
    · obtain hpassed | hheldm | hrepeated | hconfirmedm := h.kept m hold
      · exact .inl (List.mem_append_left _ hpassed)
      · exact (hheld m hheldm).imp (List.mem_append_right _)
          (Or.imp_right fun hc => .inr (hconfirmed hc))
      · exact .inr (.inr (.inl (hrepeated.mono more)))
      · exact .inr (.inr (.inr (hconfirmedm.mono msg more)))
    · obtain rfl := List.mem_singleton.mp hlast
      exact hmsg.imp (List.mem_append_right _) (Or.imp_right fun hr => .inl (hr.mono more))

/-- Noting a reconnect moves no update. -/
theorem Accounts.noteReconnect (h : Accounts received passed s) (count : UInt32) :
    Accounts received passed (s.noteReconnect count) := by
  unfold DedupStream.noteReconnect
  split
  · refine ⟨h.ordered.prepareForReplay, h.labelled, h.once, fun slot key hk => ?_, h.kept⟩
    rw [record_prepareForReplay] at hk
    exact h.remembered slot key (holds_promote hk)
  · exact h

omit [Dedupable T] in
/-- **What is held is held for the slot, or for another.** -/
theorem held_perm (s : DedupStream T) (slot : UInt64) :
    (s.heldFor slot ++ (s.discard slot).held).Perm s.held := by
  have hsplit := List.filter_append_perm (fun p : UInt64 × T => decide (p.1 = slot)) s.quarantine
  have hmap := hsplit.map Prod.snd
  rw [List.map_append] at hmap
  simpa [heldFor, discard, held] using hmap

/-- What is held for a slot is of that slot. -/
theorem Accounts.labelled_heldFor (h : Accounts received passed s) {slot : UInt64}
    (hm : m ∈ s.heldFor slot) : ∃ key, Dedupable.extractKey m = some (slot, key) := by
  obtain ⟨⟨slot', m'⟩, hmem, rfl⟩ := List.mem_map.mp hm
  obtain ⟨hheld, heq⟩ := List.mem_filter.mp hmem
  obtain rfl : slot' = slot := of_decide_eq_true heq
  exact h.labelled slot' m' hheld

variable {state : DedupState} {slot : UInt64} {key : DedupKey} {hash : String}

/-- The message is passed on. -/
theorem Accounts.passOn (h : Accounts received passed s) (hordered : state.Ordered)
    (hrecalls : Recalls state passed [msg] msg) :
    Accounts (received ++ [msg]) (passed ++ [msg]) { s with state := state } := by
  refine h.next msg [msg] hordered h.labelled ?_ hrecalls (fun m hm => .inr (.inl hm))
    (.inl List.mem_cons_self)
  refine .trans (List.Perm.subperm ?_) (h.once.append (.refl [msg]))
  rw [List.append_assoc, List.append_assoc]
  exact List.Perm.append_left passed List.perm_append_comm

/-- The message is dropped, as a repetition. -/
theorem Accounts.drop (h : Accounts received passed s) (hordered : state.Ordered)
    (hrecalls : Recalls state passed [] msg) (hrepeated : Repeated passed msg) :
    Accounts (received ++ [msg]) (passed ++ []) { s with state := state } := by
  refine h.next msg [] hordered h.labelled ?_ hrecalls (fun m hm => .inr (.inl hm))
    (.inr (.inr hrepeated))
  rw [List.append_nil]
  exact h.once.trans (List.sublist_append_left received [msg]).subperm

/-- The message is held. -/
theorem Accounts.hold (h : Accounts received passed s) (hordered : state.Ordered)
    (hrecalls : Recalls state passed [] msg)
    (hkey : Dedupable.extractKey msg = some (slot, key)) :
    Accounts (received ++ [msg]) (passed ++ [])
      (DedupStream.hold { s with state := state } slot msg) := by
  have hholds : (DedupStream.hold { s with state := state } slot msg).held = s.held ++ [msg] :=
    List.map_append
  refine h.next msg [] hordered (fun slot' m hm => ?_) ?_ hrecalls (fun m hm => .inr (.inl ?_))
    (.inr (.inl ?_))
  · obtain hold | hlast := List.mem_append.mp hm
    · exact h.labelled slot' m hold
    · obtain ⟨rfl, rfl⟩ := Prod.mk.inj (List.mem_singleton.mp hlast)
      exact ⟨key, hkey⟩
  · rw [hholds, List.append_nil, ← List.append_assoc]
    exact h.once.append (.refl [msg])
  · rw [hholds]
    exact List.mem_append_left _ hm
  · rw [hholds]
    exact List.mem_append_right _ List.mem_cons_self

/-- The block is the one that was passed on: what was held of it is confirmed. -/
theorem Accounts.discard (h : Accounts received passed s) (hordered : state.Ordered)
    (hrecalls : Recalls state passed [] msg)
    (hkey : Dedupable.extractKey msg = some (slot, .blockMeta hash))
    (hpassed : ∃ b ∈ passed, Dedupable.extractKey b = some (slot, .blockMeta hash)) :
    Accounts (received ++ [msg]) (passed ++ [])
      (DedupStream.discard { s with state := state } slot) := by
  have hsplit := held_perm s slot
  refine h.next msg [] hordered (fun slot' m hm => h.labelled slot' m (List.mem_of_mem_filter hm))
    ?_ hrecalls (fun m hm => ?_) (.inr (.inr ⟨slot, _, hkey, hpassed⟩))
  · rw [List.append_nil]
    refine .trans ?_ (h.once.trans (List.sublist_append_left received [msg]).subperm)
    exact (List.subperm_append_left passed).mpr
      ((List.sublist_append_right _ _).subperm.trans hsplit.subperm)
  · obtain hslot | hother := List.mem_append.mp (hsplit.mem_iff.mpr hm)
    · obtain ⟨key, hmkey⟩ := h.labelled_heldFor hslot
      exact .inr (.inr ⟨slot, key, hash, hmkey, hpassed, msg, hkey,
        (List.singleton_sublist.mpr (h.mem_received hm)).append (.refl [msg])⟩)
    · exact .inr (.inl hother)

/-- The block is not the one that was passed on, if one was: what was held of it
is passed on, and the announcement after it. -/
theorem Accounts.flush (h : Accounts received passed s) (hordered : state.Ordered)
    (hrecalls : Recalls state passed (s.heldFor slot ++ [msg]) msg) :
    Accounts (received ++ [msg]) (passed ++ (s.heldFor slot ++ [msg]))
      (DedupStream.flush { s with state := state } slot msg) := by
  have hsplit := held_perm s slot
  refine h.next msg _ hordered (fun slot' m hm => h.labelled slot' m (List.mem_of_mem_filter hm))
    ?_ hrecalls (fun m hm => ?_) (.inl (List.mem_append_right _ List.mem_cons_self))
  · refine .trans (List.Perm.subperm ?_) (h.once.append (.refl [msg]))
    show (passed ++ (s.heldFor slot ++ [msg]) ++ (s.discard slot).held).Perm
      (passed ++ s.held ++ [msg])
    rw [List.append_assoc, List.append_assoc, List.append_assoc]
    refine List.Perm.append_left passed ?_
    refine (List.Perm.append_left (s.heldFor slot) List.perm_append_comm).trans ?_
    rw [← List.append_assoc]
    exact hsplit.append_right [msg]
  · obtain hslot | hother := List.mem_append.mp (hsplit.mem_iff.mpr hm)
    · exact .inl (List.mem_append_left _ hslot)
    · exact .inr (.inl hother)

variable [SlotStatus]

/-- What an observation says of the messages passed on. -/
structure Observes (passed : List T) (slot : UInt64) (key : DedupKey)
    (after : Observation × DedupState) : Prop where
  ordered : after.2.Ordered
  remembered : ∀ slot' key', Holds (after.2.record slot') key' →
    (∃ m ∈ passed, Dedupable.extractKey m = some (slot', key'))
      ∨ (slot' = slot ∧ key' = key ∧ (after.1 = .new ∨ after.1 = .replayComplete false))
  dropped : after.1 = .duplicate ∨ after.1 = .replayComplete true →
    ∃ m ∈ passed, Dedupable.extractKey m = some (slot, key)
  verdict : ∀ same, after.1 = .replayComplete same → ∃ hash, key = .blockMeta hash

/-- **What is remembered after an observation** was remembered before, or is the
key, which is passed on; and what is dropped was passed on before. -/
theorem Accounts.observes (h : Accounts received passed s) (slot : UInt64) (key : DedupKey) :
    Observes passed slot key (s.state.observe slot key) := by
  have hobserved := h.ordered.observe slot key
  have hsound := classify_sound (s.state.record slot) key
  refine ⟨hobserved.ordered, fun slot' key' hk => ?_, fun hdropped => ?_, fun same hsame => ?_⟩
  · obtain hrecord | hcrowded := hobserved.record_eq slot'
    · rw [hrecord] at hk
      split at hk
      · rename_i heq
        rw [hobserved.observation]
        refine (hsound.holds key' hk).imp (fun hold => ?_) fun hnew => ⟨heq, hnew⟩
        rw [heq]
        exact h.remembered slot key' hold
      · exact .inl (h.remembered slot' key' hk)
    · rw [hcrowded.record_eq] at hk
      exact absurd hk (not_holds_none key')
  · rw [hobserved.observation] at hdropped
    exact h.remembered slot key (hdropped.elim hsound.duplicate hsound.same)
  · rw [hobserved.observation] at hsame
    exact hsound.verdict same hsame

/-- **One message.** It is passed on, or dropped as a repetition, or held; or it is
a verdict, and what was held for its slot is dropped or passed on. -/
theorem Accounts.receive (h : Accounts received passed s) (hempty : s.flushQueue = [])
    (count : UInt32) (msg : T) :
    Accounts (received ++ [msg])
      (passed ++ ((s.receive count msg).1.toList ++ (s.receive count msg).2.flushQueue))
      (s.receive count msg).2 := by
  replace h := h.noteReconnect count
  have hflush : (s.noteReconnect count).flushQueue = [] := by
    unfold DedupStream.noteReconnect
    split <;> exact hempty
  unfold DedupStream.receive
  dsimp only
  generalize s.noteReconnect count = s at h hflush ⊢
  cases hkey : Dedupable.extractKey msg with
  | none =>
    dsimp only
    rw [hflush]
    exact h.passOn h.ordered fun slot key hk => .inl (h.remembered slot key hk)
  | some labelled =>
    obtain ⟨slot, key⟩ := labelled
    have hobserves := h.observes slot key
    dsimp only
    generalize s.state.observe slot key = after at hobserves ⊢
    obtain ⟨observation, state⟩ := after
    obtain ⟨hordered, hremembered, hdropped, hverdict⟩ := hobserves
    dsimp only at hordered hremembered hdropped hverdict ⊢
    -- Where the message is passed on, its key may be remembered.
    have hrecalls : ∀ {more : List T}, (observation = .new ∨ observation = .replayComplete false →
        msg ∈ more) → Recalls state passed more msg := by
      intro more hmore slot' key' hk
      refine (hremembered slot' key' hk).imp_right ?_
      rintro ⟨rfl, rfl, hobs⟩
      exact ⟨hmore hobs, hkey⟩
    cases observation with
    | new =>
      have haccounts := h.passOn hordered (hrecalls fun _ => List.mem_cons_self)
      rw [hflush] at haccounts ⊢
      exact haccounts
    | duplicate =>
      have haccounts := h.drop hordered (hrecalls (by simp)) ⟨slot, key, hkey, hdropped (.inl rfl)⟩
      rw [hflush] at haccounts ⊢
      exact haccounts
    | replay =>
      dsimp only [Option.toList_none, List.nil_append]
      rw [show (DedupStream.hold { s with state := state } slot msg).flushQueue = [] from hflush]
      exact h.hold hordered (hrecalls (by simp)) hkey
    | replayComplete same =>
      obtain ⟨hash, rfl⟩ := hverdict same rfl
      cases same with
      | true =>
        dsimp only [Option.toList_none, List.nil_append]
        rw [show (DedupStream.discard { s with state := state } slot).flushQueue = [] from hflush]
        exact h.discard hordered (hrecalls (by simp)) hkey (hdropped (.inr rfl))
      | false =>
        dsimp only [Option.toList_none, List.nil_append]
        rw [show (DedupStream.flush { s with state := state } slot msg).flushQueue
          = s.heldFor slot ++ [msg] by simp [DedupStream.flush, heldFor, hflush]]
        exact h.flush hordered (hrecalls fun _ => List.mem_append_right _ List.mem_cons_self)

/-! ## Polling -/

/-- The message of an answer, if it is one. -/
def message : Poll (Option (Except ε T)) → Option T
  | .ready (some (.ok msg)) => some msg
  | _ => none

/-- The messages that came in, of the answers of the stream inside. -/
def receivedIn (answers : List (Answer T ε)) : List T :=
  answers.filterMap fun answer => message answer.poll

omit [SlotStatus] [Dedupable T] in
/-- Nothing is received of no answers. -/
@[simp] theorem receivedIn_nil : receivedIn ([] : List (Answer T ε)) = [] := rfl

omit [SlotStatus] [Dedupable T] in
/-- The first answer's update comes first. -/
theorem receivedIn_cons (answer : Answer T ε) (answers : List (Answer T ε)) :
    receivedIn (answer :: answers) = (message answer.poll).toList ++ receivedIn answers := by
  unfold receivedIn
  cases hmessage : message answer.poll <;> simp [hmessage]

omit [SlotStatus] [Dedupable T] in
/-- And two runs of answers are received one after the other. -/
theorem receivedIn_append (answers answers' : List (Answer T ε)) :
    receivedIn (answers ++ answers') = receivedIn answers ++ receivedIn answers' :=
  List.filterMap_append

omit [SlotStatus] in
/-- The oldest of what is to be let through is let through. -/
theorem Accounts.drain {rest : List T} (h : Accounts received (passed ++ s.flushQueue) s)
    (hqueue : s.flushQueue = msg :: rest) :
    Accounts received (passed ++ [msg] ++ rest) { s with flushQueue := rest } := by
  rw [hqueue, List.append_cons] at h
  exact ⟨h.ordered, h.labelled, h.once, h.remembered, h.kept⟩

/-- **One poll** of the filtered stream uses answers of the stream inside up, and
keeps the account. -/
theorem pollNext_accounts {answers rest : List (Answer T ε)} {s s' : DedupStream T}
    {o : Poll (Option (Except ε T))} (hpoll : pollNext answers s = (o, s', rest))
    (h : Accounts received (passed ++ s.flushQueue) s) :
    ∃ used, answers = used ++ rest ∧ Accounts (received ++ receivedIn used)
      (passed ++ (message o).toList ++ s'.flushQueue) s' := by
  induction answers generalizing s received with
  | nil =>
    unfold pollNext at hpoll
    split at hpoll
    · rename_i msg queue hqueue
      cases hpoll
      refine ⟨[], rfl, ?_⟩
      rw [receivedIn_nil, List.append_nil]
      exact h.drain hqueue
    · cases hpoll
      refine ⟨[], rfl, ?_⟩
      rw [receivedIn_nil, List.append_nil]
      simpa [message] using h
  | cons answer answers ih =>
    unfold pollNext at hpoll
    split at hpoll
    · rename_i msg queue hqueue
      cases hpoll
      refine ⟨[], rfl, ?_⟩
      rw [receivedIn_nil, List.append_nil]
      exact h.drain hqueue
    · rename_i hqueue
      rw [hqueue, List.append_nil] at h
      split at hpoll
      · rename_i msg hanswer
        have hmessage : message answer.poll = some msg := by rw [hanswer]; rfl
        have hreceive := h.receive hqueue answer.reconnectCount msg
        split at hpoll
        · rename_i out s₁ heq
          cases hpoll
          rw [heq] at hreceive
          refine ⟨[answer], rfl, ?_⟩
          rw [receivedIn_cons, hmessage, List.append_assoc passed]
          exact hreceive
        · rename_i s₁ heq
          rw [heq] at hreceive
          obtain ⟨used, hused, haccounts⟩ := ih hpoll hreceive
          refine ⟨answer :: used, by rw [hused]; rfl, ?_⟩
          rw [receivedIn_cons, hmessage, ← List.append_assoc]
          exact haccounts
      · rename_i hother
        cases hpoll
        have hnone : message answer.poll = none := by
          unfold message
          split
          · rename_i msg hanswer
            exact absurd hanswer (hother msg)
          · rfl
        refine ⟨[answer], rfl, ?_⟩
        rw [receivedIn_cons, hnone, hqueue]
        simpa using h

/-- A poll, by what it gives. -/
def Polls (c : DedupStream T × List (Answer T ε)) (o : Poll (Option (Except ε T)))
    (c' : DedupStream T × List (Answer T ε)) : Prop :=
  pollNext c.2 c.1 = (o, c'.1, c'.2)

/-- A poll of the stream is a step. -/
theorem polls_pollNext (c : DedupStream T × List (Answer T ε)) :
    Polls c (pollNext c.2 c.1).1 (pollNext c.2 c.1).2 := rfl

/-- The messages passed on, of what the polls gave. -/
def delivered (outs : List (Poll (Option (Except ε T)))) : List T := outs.filterMap message

omit [SlotStatus] [Dedupable T] in
/-- What the first poll delivers comes first. -/
theorem delivered_cons (o : Poll (Option (Except ε T))) (outs : List (Poll (Option (Except ε T)))) :
    delivered (o :: outs) = (message o).toList ++ delivered outs := by
  unfold delivered
  cases hmessage : message o <;> simp [hmessage]

/-- **A run of polls** keeps the account. -/
theorem polls_accounts {c c' : DedupStream T × List (Answer T ε)}
    {outs : List (Poll (Option (Except ε T)))} (hrun : Steps Polls c outs c')
    (h : Accounts received (passed ++ c.1.flushQueue) c.1) :
    ∃ used, c.2 = used ++ c'.2 ∧ Accounts (received ++ receivedIn used)
      (passed ++ delivered outs ++ c'.1.flushQueue) c'.1 := by
  induction hrun generalizing received passed with
  | nil c =>
    refine ⟨[], rfl, ?_⟩
    simpa [receivedIn, delivered] using h
  | @cons c mid c' o outs hpoll hrest ih =>
    obtain ⟨used, hused, hmid⟩ := pollNext_accounts hpoll h
    obtain ⟨used', hused', hlast⟩ := ih hmid
    refine ⟨used ++ used', by rw [hused, hused', List.append_assoc], ?_⟩
    rw [delivered_cons, receivedIn_append, ← List.append_assoc, ← List.append_assoc]
    exact hlast

omit [SlotStatus] in
/-- At first nothing is owed. -/
theorem new_accounts (n : ℕ) : Accounts ([] : List T)
    ([] ++ (new (.withSlotRetention n)).flushQueue) (new (.withSlotRetention n) : DedupStream T) :=
  ⟨withSlotRetention_ordered n, nofun, .refl [], fun _ key hk => absurd hk (not_holds_none key),
    nofun⟩

/-- **The filter loses nothing without a reason.** However its stream is polled, and
whatever the stream inside answers: of the messages that came in, each is passed
on, about to be, or held, at most once for each time it came in; and each that is
neither has the key of one that is passed on, or came for a block that is passed on
and was announced again, with the same hash, after it. -/
theorem polls_lose_nothing {n : ℕ} {answers rest : List (Answer T ε)} {s : DedupStream T}
    {outs : List (Poll (Option (Except ε T)))}
    (hrun : Steps Polls (.new (.withSlotRetention n), answers) outs (s, rest)) :
    ∃ used, answers = used ++ rest
      ∧ (delivered outs ++ s.flushQueue ++ s.held).Subperm (receivedIn used)
      ∧ ∀ m ∈ receivedIn used, m ∈ delivered outs ++ s.flushQueue ∨ m ∈ s.held
        ∨ Repeated (delivered outs ++ s.flushQueue) m
        ∨ Confirmed (receivedIn used) (delivered outs ++ s.flushQueue) m := by
  obtain ⟨used, hused, haccounts⟩ := polls_accounts hrun (new_accounts n)
  exact ⟨used, hused, haccounts.once, haccounts.kept⟩

/-- A transaction that came twice, and a pause. -/
def repeatedAnswers : List (Answer SubscribeUpdate Unit) :=
  [⟨.ready (some (.ok ⟨[], some (.transaction 7 (some 0))⟩)), 0⟩,
    ⟨.ready (some (.ok ⟨[], some (.transaction 7 (some 0))⟩)), 0⟩, ⟨.pending, 0⟩]

omit [SlotStatus] in
/-- The second is dropped, having the key of the first. -/
theorem repeatedAnswers_account :
    letI : SlotStatus := ⟨5⟩
    ∃ (s : DedupStream SubscribeUpdate) (outs : List (Poll (Option (Except Unit SubscribeUpdate)))),
      Steps Polls (.new (.withSlotRetention 1), repeatedAnswers) outs (s, [])
      ∧ ∀ m ∈ receivedIn repeatedAnswers, m ∈ delivered outs ++ s.flushQueue ∨ m ∈ s.held
        ∨ Repeated (delivered outs ++ s.flushQueue) m
        ∨ Confirmed (receivedIn repeatedAnswers) (delivered outs ++ s.flushQueue) m := by
  let : SlotStatus := ⟨5⟩
  obtain ⟨s, outs, hrun⟩ : ∃ (s : DedupStream SubscribeUpdate)
      (outs : List (Poll (Option (Except Unit SubscribeUpdate)))),
      Steps Polls (.new (.withSlotRetention 1), repeatedAnswers) outs (s, []) :=
    ⟨_, _, .cons (polls_pollNext _) (.cons (polls_pollNext _) (.nil _))⟩
  obtain ⟨used, hused, -, hkept⟩ := polls_lose_nothing hrun
  rw [List.append_nil] at hused
  exact ⟨s, outs, hrun, hused ▸ hkept⟩

end DedupStream
end Yellowstone
