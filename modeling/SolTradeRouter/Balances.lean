import SolTradeRouter.Runtime

/-!
# Balances of token accounts

What a call does to a token account is a change of eight bytes. Writing a
balance leaves the mint, the owner and the token program of every account
as they are, and the balances of all other accounts.
-/

namespace Program

open Outcome Bytes

/-- The token balance at an address. -/
def balanceAt (l : Ledger) (k : Address) : Read UInt64 := tokenAmount l ⟨k, false, true⟩

/-- The accounts with the token balance at an address replaced. -/
def setAmount (l : Ledger) (k : Address) (n : UInt64) : Ledger :=
  setData l k ((l k).data.take 64 ++ ofUInt64 n ++ (l k).data.drop 72)

/-- A call took exactly an amount out of an account. -/
def Debits (l l' : Ledger) (k : Address) (n : UInt64) : Prop :=
  ∃ before after, balanceAt l k = .ok before ∧ balanceAt l' k = .ok after
    ∧ before.toNat = after.toNat + n.toNat

/-- A call put exactly an amount into an account. -/
def Credits (l l' : Ledger) (k : Address) (n : UInt64) : Prop :=
  ∃ before after, balanceAt l k = .ok before ∧ balanceAt l' k = .ok after
    ∧ before.toNat + n.toNat = after.toNat

section

variable {l : Ledger} {k k' mint owner mint' owner' : Address} {n : UInt64}

/-- No other account is touched. -/
theorem setAmount_of_ne (h : k' ≠ k) : setAmount l k n k' = l k' := setData_of_ne _ h

/-- And the owner stays. -/
@[simp] theorem setAmount_owner : (setAmount l k n k').owner = (l k').owner := by
  by_cases h : k' = k
  · rw [h, setAmount, setData_self]
  · rw [setAmount_of_ne h]

/-- **Writing a balance changes the eight bytes of the balance only.** -/
theorem setAmount_data (h : 72 ≤ (l k).data.length) :
    (setAmount l k n k).data.length = (l k).data.length
      ∧ (∀ start stop, stop ≤ 64 →
        range? (setAmount l k n k).data start stop = range? (l k).data start stop)
      ∧ range? (setAmount l k n k).data 64 72 = some (ofUInt64 n) := by
  have hdata : (setAmount l k n k).data
      = (l k).data.take 64 ++ ofUInt64 n ++ (l k).data.drop 72 := by
    rw [setAmount, setData_self]
  have htake : ((l k).data.take 64).length = 64 := by
    rw [List.length_take]
    omega
  have hlength : (setAmount l k n k).data.length = (l k).data.length := by
    rw [hdata, List.length_append, List.length_append, htake, length_ofUInt64,
      List.length_drop]
    omega
  refine ⟨hlength, fun start stop hstop => ?_,
    range?_eq_some_iff.mpr ⟨_, _, hdata, htake, by rw [length_ofUInt64]⟩⟩
  by_cases hle : start ≤ stop
  · rw [range?_of_le hle (by omega), range?_of_le hle (by omega), hdata, List.append_assoc,
      Option.some.injEq]
    refine List.ext_getElem? fun i => ?_
    rw [List.getElem?_take, List.getElem?_take, List.getElem?_drop, List.getElem?_drop]
    split
    · rw [List.getElem?_append_left (by omega), List.getElem?_take, if_pos (by omega)]
    · rfl
  · rw [range?, if_neg (fun h => hle h.1), range?, if_neg (fun h => hle h.1)]

/-- **A token account stays one**, of the same mint and the same owner, if a
balance is written where there is room for it. -/
theorem TokenAccount.setAmount_of_length (h : TokenAccount l k mint owner)
    (hlength : 72 ≤ (l k').data.length) : TokenAccount (setAmount l k' n) k mint owner := by
  by_cases heq : k = k'
  · subst heq
    obtain ⟨hlength, hsame, -⟩ := @setAmount_data l k n h.length
    exact {
      program := by rw [setAmount_owner]; exact h.program
      mint := by rw [hsame 0 32 (by decide)]; exact h.mint
      owner := by rw [hsame 32 64 (by decide)]; exact h.owner
      length := by rw [hlength]; exact h.length }
  · have hsame : Program.setAmount l k' n k = l k := setAmount_of_ne heq
    exact {
      program := by rw [hsame]; exact h.program
      mint := by rw [hsame]; exact h.mint
      owner := by rw [hsame]; exact h.owner
      length := by rw [hsame]; exact h.length }

/-- A token account stays one when any balance is written. -/
theorem TokenAccount.setAmount (h : TokenAccount l k mint owner)
    (hwritten : TokenAccount l k' mint' owner') :
    TokenAccount (setAmount l k' n) k mint owner :=
  h.setAmount_of_length hwritten.length

/-- A written balance is read back. -/
theorem balanceAt_setAmount_of_length (hlen : 72 ≤ (l k).data.length) :
    balanceAt (setAmount l k n) k = .ok n := by
  obtain ⟨hlength, -, hamount⟩ := @setAmount_data l k n hlen
  unfold balanceAt tokenAmount
  rw [show AccountView.data (setAmount l k n) ⟨k, false, true⟩ = (setAmount l k n k).data
    from rfl, failIf, if_neg (by omega), ok_bind, slice, hamount, orPanic_some, ok_bind,
    toUInt64_ofUInt64]
  rfl

/-- A balance that is written is read back. -/
theorem balanceAt_setAmount (h : TokenAccount l k mint owner) :
    balanceAt (setAmount l k n) k = .ok n :=
  balanceAt_setAmount_of_length h.length

/-- An account with a balance has room for one. -/
theorem length_of_balanceAt (h : balanceAt l k = .ok n) : 72 ≤ (l k).data.length := by
  obtain ⟨_, hlength, -⟩ := bind_eq_ok.mp h
  exact Nat.not_lt.mp (failIf_eq_ok.mp hlength)

/-- Other balances are left as they are. -/
theorem balanceAt_setAmount_of_ne (h : k' ≠ k) :
    balanceAt (setAmount l k n) k' = balanceAt l k' := by
  unfold balanceAt tokenAmount AccountView.data
  rw [setAmount_of_ne h]

/-- The balance of an account is that at its address. -/
theorem tokenAmount_eq_balanceAt (account : AccountView) :
    tokenAmount l account = balanceAt l account.address :=
  tokenAmount_congr rfl

end

end Program
