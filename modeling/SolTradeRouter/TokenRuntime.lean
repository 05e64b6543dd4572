import SolTradeRouter.StaticRuns

/-!
# A runtime that keeps tokens

Calls that ask for a transfer are carried out on the balances of token
accounts, and so are swaps, at the least they promise. Such a runtime is
honest for every route that moves tokens only, whatever the exchanges' calls
look like, as long as none of them reads as a transfer.
-/

namespace Execution

open Outcome Bytes Transfers Program Sdk WireFormat DynamicAccepted

/-- An amount leaves one token account, and an amount reaches another. -/
def moveTokens (l : Ledger) (source target : Pubkey) (sent got : UInt64) :
    Except ProgramError Ledger :=
  match balanceAt l source with
  | .error _ => .error .invalidAccountData
  | .ok before =>
    if sent ≤ before then
      match balanceAt (setAmount l source (before - sent)) target with
      | .error _ => .error .invalidAccountData
      | .ok held =>
        if held.toNat + got.toNat < 2 ^ 64 then
          .ok (setAmount (setAmount l source (before - sent)) target (held + got))
        else .error (.other 0)
    else .error (.other 1)

/-- **The calls of a token program**, and of the exchanges that the given swaps
speak for. -/
def tokenRuntime (swaps : CpiCall → Option (Transfer Purse)) : Runtime where
  cpi _ call l :=
    match swaps call, call.metas, call.data with
    | some t, _, _ => moveTokens l t.source.account t.target.account (.ofNat t.most)
      (.ofNat t.least)
    | none, [source, target, _], 3 :: amount =>
      moveTokens l source.pubkey target.pubkey (toUInt64 amount) (toUInt64 amount)
    | none, [source, _, target, _], 12 :: amount =>
      moveTokens l source.pubkey target.pubkey (toUInt64 (amount.take 8))
        (toUInt64 (amount.take 8))
    | _, _, _ => .error (.other 2)
  createAccount _ l := .ok l
  minimumBalance _ := .ok 0

section

variable {l l' : Ledger} {source target k mint owner : Pubkey} {sent got n : UInt64}
  {header : BuiltHeader}

/-- Writing a balance is seen in the purse of the account, and in no other. -/
theorem holds_setAmount (h : 72 ≤ (l source).data.length) (k : Pubkey) :
    holds (setAmount l source n) ⟨false, k⟩
      = if k = source then n.toNat else holds l ⟨false, k⟩ := by
  split
  · rename_i hk
    subst hk
    exact holds_token (balanceAt_setAmount_of_length h)
  · rename_i hk
    show ((balanceAt _ k).toOption.getD 0).toNat = _
    rw [balanceAt_setAmount_of_ne hk]
    rfl

/-- **What a transfer of tokens does.** -/
theorem moveTokens_moves (h : moveTokens l source target sent got = .ok l') :
    sent.toNat ≤ holds l ⟨false, source⟩
      ∧ (∀ k, holds l' ⟨false, k⟩ + (if k = source then sent.toNat else 0)
        = holds l ⟨false, k⟩ + (if k = target then got.toNat else 0))
      ∧ ∀ k mint owner, TokenAccount l k mint owner → TokenAccount l' k mint owner := by
  unfold moveTokens at h
  split at h
  · cases h
  rename_i before hbefore
  split at h
  · rename_i hle
    split at h
    · cases h
    rename_i held hheld
    split at h
    · rename_i hroom
      cases h
      have hsource := length_of_balanceAt hbefore
      have htarget := length_of_balanceAt hheld
      have hpaid := @holds_setAmount l source (before - sent) hsource
      have hgot := @holds_setAmount (setAmount l source (before - sent)) target (held + got)
        htarget
      have hb := holds_token hbefore
      have ht := holds_token hheld
      have hsub : (before - sent).toNat = before.toNat - sent.toNat :=
        UInt64.toNat_sub_of_le _ _ hle
      have hsum : (held + got).toNat = held.toNat + got.toNat := by
        rw [UInt64.toNat_add, Nat.mod_eq_of_lt hroom]
      have hle' : sent.toNat ≤ before.toNat := UInt64.le_iff_toNat_le.mp hle
      refine ⟨by rw [hb]; exact hle', fun k => ?_, fun k mint owner h => ?_⟩
      · rw [hgot k, hsum, ← ht, hpaid target, hpaid k, hsub]
        by_cases hk : k = target
        · subst hk
          rw [if_pos rfl, if_pos rfl]
          split
          · rename_i hs
            rw [hs, hb]
            omega
          · rfl
        · rw [if_neg hk, if_neg hk]
          split
          · rename_i hs
            rw [hs, hb]
            omega
          · rfl
      · exact (h.setAmount_of_length hsource).setAmount_of_length htarget
    · cases h
  · cases h

end

/-! ## It is honest -/

section Honest

variable {swaps : CpiCall → Option (Transfer Purse)} {plans : Leg → Transfer Purse → Prop}
  {header : BuiltHeader} {legs : List Leg} {metas : List AccountMeta}

/-- **The swaps speak for the legs**: their calls do not read as transfers, and
move tokens as the legs plan. -/
structure Speaks (swaps : CpiCall → Option (Transfer Purse))
    (plans : Leg → Transfer Purse → Prop) (metas : List AccountMeta) (legs : List Leg) :
    Prop where
  legs : ∀ leg ∈ legs, ∀ t, plans leg t → swaps (legCall metas leg) = some t
  amounts : ∀ call t, swaps call = some t → t.most < 2 ^ 64 ∧ t.least < 2 ^ 64
  tokens : ∀ call t, swaps call = some t → t.source.native = false ∧ t.target.native = false
  transfers : ∀ call t, swaps call = some t → call.data.head? ≠ some 3 ∧ call.data.head? ≠ some 12

/-- **A call that asks for a transfer of tokens** is carried out as one. -/
theorem tokenRuntime_transfer {call : CpiCall} {source target : Pubkey} {fee : UInt64} {n : ℕ}
    {l : Ledger} (h : TransferCall call ⟨false, source⟩ ⟨false, target⟩ fee)
    (hswaps : swaps call = none) :
    (tokenRuntime swaps).cpi n call l = moveTokens l source target fee fee := by
  cases h with
  | token from_ to_ authority amount program =>
    unfold tokenRuntime
    dsimp only
    rw [hswaps]
    show moveTokens _ _ _ (toUInt64 (ofUInt64 fee)) (toUInt64 (ofUInt64 fee)) = _
    rw [toUInt64_ofUInt64]
  | checked from_ mint to_ authority amount decimals program =>
    unfold tokenRuntime
    dsimp only
    rw [hswaps]
    show moveTokens _ _ _ (toUInt64 ((ofUInt64 fee ++ [decimals]).take 8))
      (toUInt64 ((ofUInt64 fee ++ [decimals]).take 8)) = _
    rw [List.take_left' (length_ofUInt64 _), toUInt64_ofUInt64]

/-- Such a call reads as a transfer. -/
theorem TransferCall.reads {call : CpiCall} {source target : Pubkey} {fee : UInt64}
    (h : TransferCall call ⟨false, source⟩ ⟨false, target⟩ fee) :
    call.data.head? = some 3 ∨ call.data.head? = some 12 := by
  cases h with
  | token => exact .inl rfl
  | checked => exact .inr rfl

/-- Purses of tokens are the same if their accounts are. -/
theorem tokenPurse_eq_iff {p q : Purse} (hp : p.native = false) (hq : q.native = false) :
    p = q ↔ p.account = q.account := by
  obtain ⟨native, account⟩ := p
  obtain ⟨native', account'⟩ := q
  cases hp
  cases hq
  rw [Purse.mk.injEq]
  exact and_iff_right rfl

theorem purse_token {p : Purse} (h : p.native = false) : (⟨false, p.account⟩ : Purse) = p := by
  rw [← h]

/-- **The runtime is honest** for every route that moves tokens only. -/
theorem tokenRuntime_honest (h : Speaks swaps plans metas legs)
    (hsource : header.source.native = false) (hpaid : (paidInto header).native = false) :
    Honest plans (tokenRuntime swaps) metas header legs where
  fee call fee hcall n l l' hl := by
    have hs : header.source = ⟨false, header.source.account⟩ := by rw [← hsource]
    have hd : header.destination = ⟨false, header.destination.account⟩ := by
      rw [← hsource]
      rfl
    rw [hs, hd] at hcall
    have hnone : swaps call = none := by
      cases hswap : swaps call with
      | none => rfl
      | some t =>
        obtain ⟨h3, h12⟩ := h.transfers call t hswap
        exact absurd hcall.reads (by simp [h3, h12])
    rw [tokenRuntime_transfer hcall hnone] at hl
    obtain ⟨hfunded, hmoves, hkeeps⟩ := moveTokens_moves hl
    refine ⟨fun k _ mint => hkeeps k mint _, by rw [hs]; exact hfunded, ?_⟩
    have hbalance := hmoves header.source.account
    rw [if_pos rfl, ← hs] at hbalance
    rw [hbalance]
    have hdestination : header.destination.native = false := hsource
    exact congrArg _ (if_congr (tokenPurse_eq_iff hsource hdestination).symm rfl rfl)
  leg leg hleg t ht n l l' hl := by
    have hswap := h.legs leg hleg t ht
    obtain ⟨hsent, hgot⟩ := h.tokens _ t hswap
    obtain ⟨hmost, hleast⟩ := h.amounts _ t hswap
    have hmove : moveTokens l t.source.account t.target.account (.ofNat t.most) (.ofNat t.least)
        = .ok l' := by
      rw [← hl]
      unfold tokenRuntime
      dsimp only
      rw [hswap]
    obtain ⟨hfunded, hmoves, hkeeps⟩ := moveTokens_moves hmove
    rw [U64.toNat_ofNat hmost] at hfunded hmoves
    rw [U64.toNat_ofNat hleast] at hmoves
    refine ⟨fun k _ mint => hkeeps k mint _, t.most, t.least, Nat.le_refl _, fun _ => rfl,
      Nat.le_refl _, by rw [← purse_token hsent]; exact hfunded, fun p hp => ?_⟩
    have htoken : p.native = false := by
      rcases List.mem_cons.mp hp with rfl | hp
      · exact hsource
      · rw [List.mem_singleton.mp hp]
        exact hpaid
    have hbalance := hmoves p.account
    rw [purse_token htoken] at hbalance
    rw [if_congr (tokenPurse_eq_iff htoken hsent) rfl rfl,
      if_congr (tokenPurse_eq_iff htoken hgot) rfl rfl]
    exact hbalance

/-- One leg swaps, at the least it promises. -/
def soleSwap (metas : List AccountMeta) (leg : Leg) (t : Transfer Purse) (call : CpiCall) :
    Option (Transfer Purse) :=
  if call = legCall metas leg then some t else none

/-- **A sole swap speaks for its leg**, if it moves tokens and does not read as
a transfer. -/
theorem soleSwap_speaks {leg : Leg} {t : Transfer Purse} (hplans : ∀ t', plans leg t' → t' = t)
    (hmost : t.most < 2 ^ 64) (hleast : t.least < 2 ^ 64) (hsource : t.source.native = false)
    (htarget : t.target.native = false)
    (hdata : leg.data.head? ≠ some 3 ∧ leg.data.head? ≠ some 12) :
    Speaks (soleSwap metas leg t) plans metas [leg] := by
  have hcall : ∀ call t', soleSwap metas leg t call = some t' →
      call = legCall metas leg ∧ t' = t := by
    intro call t' h
    unfold soleSwap at h
    split at h
    · cases h
      exact ⟨‹_›, rfl⟩
    · cases h
  refine ⟨fun l hl t' ht' => ?_, fun call t' h => ?_, fun call t' h => ?_, fun call t' h => ?_⟩
  · rw [List.mem_singleton.mp hl] at ht' ⊢
    rw [hplans t' ht']
    exact if_pos rfl
  · rw [(hcall call t' h).2]
    exact ⟨hmost, hleast⟩
  · rw [(hcall call t' h).2]
    exact ⟨hsource, htarget⟩
  · rw [(hcall call t' h).1]
    exact hdata

end Honest

end Execution
