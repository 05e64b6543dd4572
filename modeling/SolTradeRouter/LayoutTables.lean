import SolTradeRouter.RouteIx
import SolTradeRouter.DynamicLeg

/-!
# The two tables of dynamic legs agree

The program and the SDK each keep a table of the swaps that can follow
another leg. Both compute `SwapKind.recognize`, so they accept the same
instructions and read the same positions; and since the kinds exclude each
other, so do the branches of either table.
-/

open Outcome Bytes

namespace Program

/-- The indices the program reads a leg's accounts at. -/
def DynamicSecondLeg.indices (layout : DynamicSecondLeg) : List ℕ :=
  [layout.inputAccount, layout.outputAccount, layout.signer, layout.inputMint,
    layout.inputProgram, layout.outputMint, layout.outputProgram]

/-- **An index that is read is a position of the layout.** -/
theorem mem_positions_of_mem_indices {s : SwapLayout} {i : ℕ}
    (h : i ∈ (DynamicSecondLeg.ofLayout s).indices) (hi : i ≠ noAccount) :
    i ∈ s.positions := by
  have hopt (o : Option ℕ) (ho : i = o.getD noAccount) : i ∈ o := by
    cases o with
    | none => exact absurd ho hi
    | some j => exact congrArg some ho.symm
  simp only [DynamicSecondLeg.indices, DynamicSecondLeg.ofLayout, List.mem_cons,
    List.not_mem_nil, or_false] at h
  rw [SwapLayout.mem_positions]
  rcases h with h | h | h | h | h | h | h
  · exact .inl h
  · exact .inr (.inl h)
  · exact .inr (.inr (.inl h))
  · exact .inr (.inr (.inr (.inl (hopt _ h))))
  · exact .inr (.inr (.inr (.inr (.inl (hopt _ h)))))
  · exact .inr (.inr (.inr (.inr (.inr (.inl (hopt _ h))))))
  · exact .inr (.inr (.inr (.inr (.inr (.inr (hopt _ h))))))

end Program

namespace LayoutTables

open Program Sdk

/-- Two branches of a table are never both taken. -/
def Exclusive {ε α : Type} (bs : List (Except ε Bool × Except ε α)) : Prop :=
  bs.Pairwise fun b b' => ¬ (b.1 = .ok true ∧ b'.1 = .ok true)

/-- **Branches named by exclusive conditions exclude each other.** -/
theorem exclusive_of_named {ε α ι : Type} {P : ι → Prop} [DecidablePred P]
    {Q : ι → Except ε Bool × Except ε α → Prop} {is : List ι}
    {bs : List (Except ε Bool × Except ε α)}
    (h : List.Forall₂ (fun i b => b.1 = .ok (decide (P i)) ∧ Q i b) is bs)
    (hnodup : is.Nodup) (hP : ∀ i j, P i → P j → i = j) : Exclusive bs := by
  have hnamed {is : List ι} {bs : List (Except ε Bool × Except ε α)}
      (h : List.Forall₂ (fun i b => b.1 = .ok (decide (P i)) ∧ Q i b) is bs) :
      ∀ b ∈ bs, b.1 = .ok true → ∃ i ∈ is, P i := by
    induction h with
    | nil => simp
    | @cons i b is bs hb _ ih =>
      intro b' hb' htrue
      rcases List.mem_cons.mp hb' with rfl | hmem
      · rw [hb.1, Except.ok.injEq, decide_eq_true_eq] at htrue
        exact ⟨i, List.mem_cons_self .., htrue⟩
      · obtain ⟨j, hj, hPj⟩ := ih b' hmem htrue
        exact ⟨j, List.mem_cons_of_mem _ hj, hPj⟩
  unfold Exclusive
  induction h with
  | nil => exact .nil
  | @cons i b is bs hb hrest ih =>
    obtain ⟨hfresh, hnodup⟩ := List.nodup_cons.mp hnodup
    refine .cons ?_ (ih hnodup)
    rintro b' hb' ⟨htrue, htrue'⟩
    obtain ⟨j, hj, hPj⟩ := hnamed hrest b' hb' htrue'
    rw [hb.1, Except.ok.injEq, decide_eq_true_eq] at htrue
    -- The same kind would stand twice in the list.
    exact hfresh (hP i j htrue hPj ▸ hj)

/-- What the two records say of one leg. -/
structure Agree (data : List UInt8) (sdk : DynamicLegLayout) (chain : DynamicSecondLeg) :
    Prop where
  input : sdk.inputAccount = chain.inputAccount
  output : sdk.outputAccount = chain.outputAccount
  signer : sdk.signer = chain.signer
  amountOffset : sdk.amountOffset = chain.amountOffset
  indices : ∀ i ∈ chain.indices, i ≠ noAccount → i < sdk.minimumAccounts
  amount_fits : chain.amountOffset + 8 ≤ data.length ∧ data.length ≤ 49

theorem agree_ofLayout {k : SwapKind} {data : List UInt8} (h : k.Shape data) :
    Agree data (.ofLayout (k.layout data) (k.minimumAccounts data))
      (.ofLayout (k.layout data)) where
  input := rfl
  output := rfl
  signer := rfl
  amountOffset := rfl
  indices i hmem hi := k.positions_lt data i (mem_positions_of_mem_indices hmem hi)
  amount_fits := h.amount_fits

/-- **The two tables accept the same legs, read them alike, and each takes
one branch at most.** -/
theorem tables_agree (program : Pubkey) (accounts : List AccountMeta) (data : List UInt8) :
    ((∃ sdk, dynamicLegLayout ⟨program, accounts, data⟩ = .ok sdk) ↔
      ∃ chain, dynamicSecondLeg program data = .ok chain)
    ∧ (∀ sdk chain, dynamicLegLayout ⟨program, accounts, data⟩ = .ok sdk →
      dynamicSecondLeg program data = .ok chain → Agree data sdk chain)
    ∧ Exclusive (dynamicLegBranches ⟨program, accounts, data⟩)
    ∧ Exclusive (dynamicBranches program data) := by
  have hnodup : SwapKind.all.Nodup := by decide
  refine ⟨?_, ?_, ?_, ?_⟩
  · simp only [dynamicLegLayout_eq_ok, dynamicSecondLeg_eq_ok]
    constructor
    · rintro ⟨_, k, hk, -⟩
      exact ⟨_, k, hk, rfl⟩
    · rintro ⟨_, k, hk, -⟩
      exact ⟨_, k, hk, rfl⟩
  · intro sdk chain hsdk hchain
    obtain ⟨k, hk, rfl⟩ := dynamicLegLayout_eq_ok.mp hsdk
    obtain ⟨k', hk', rfl⟩ := dynamicSecondLeg_eq_ok.mp hchain
    rw [SwapKind.accepts_unique hk' hk]
    exact agree_ofLayout hk.2
  · exact exclusive_of_named (dynamicLegBranches_eq _) hnodup
      (fun _ _ h h' => SwapKind.accepts_unique h h')
  · exact exclusive_of_named (dynamicBranches_eq program data) hnodup
      (fun _ _ h h' => SwapKind.accepts_unique h h')

/-- A three-array Whirlpool swap, with one supplemental array. -/
theorem whirlpool_tables_agree :
    Agree (Sdk.whirlpoolSwapV2 ++ List.replicate 32 0 ++ [1, 1, 1, 1, 0, 0, 0, 6, 1])
      ⟨7, 9, 3, 8, 16⟩ ⟨7, 9, 3, 8, 5, 0, 6, 1, false⟩ :=
  (tables_agree Sdk.orcaWhirlpoolProgram []
    (Sdk.whirlpoolSwapV2 ++ List.replicate 32 0 ++ [1, 1, 1, 1, 0, 0, 0, 6, 1])).2.1 _ _
    (by decide) (by decide)

end LayoutTables
