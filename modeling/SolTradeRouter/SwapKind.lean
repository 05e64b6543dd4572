import SolTradeRouter.Constants

/-!
# The swaps a dynamic route can chain

A dynamic route hands the proceeds of one leg to the next, and for that it
has to know where in the next leg's accounts and data the input stands.
Nine instructions are supported. `SwapKind` enumerates them, with the data
each one has (`Shape`) and the positions of its accounts (`layout`).

This is the abstract table. The on-chain program and the SDK each keep a
copy of their own, written as a chain of conditions over bytes; both are
proved to compute `recognize`, so what holds of the one table holds of
both.
-/

open Bytes

/-- **The exact-input swaps that can follow another leg.** -/
inductive SwapKind where
  | launchlabBuy
  | cpmm
  | pumpswapBuy
  | pumpswapSell
  | ammV4
  | clmm
  | dlmm
  | damm
  | whirlpool
  deriving DecidableEq, Repr

/-- **Where a swap's accounts and its input amount stand.** A mint or a
token program that is not among the accounts is `none`. When `paired`
holds, the two mint positions are the pool's two sides in the pool's own
order, whichever way the swap goes. -/
structure SwapLayout where
  input : ℕ
  output : ℕ
  signer : ℕ
  amountOffset : ℕ
  inputMint : Option ℕ
  inputProgram : Option ℕ
  outputMint : Option ℕ
  outputProgram : Option ℕ
  paired : Bool
  deriving DecidableEq, Repr

/-- The positions a layout speaks of. -/
def SwapLayout.positions (s : SwapLayout) : List ℕ :=
  [s.input, s.output, s.signer] ++ s.inputMint.toList ++ s.inputProgram.toList
    ++ s.outputMint.toList ++ s.outputProgram.toList

namespace SwapLayout

theorem mem_positions {s : SwapLayout} {i : ℕ} :
    i ∈ s.positions ↔ i = s.input ∨ i = s.output ∨ i = s.signer ∨ i ∈ s.inputMint
      ∨ i ∈ s.inputProgram ∨ i ∈ s.outputMint ∨ i ∈ s.outputProgram := by
  simp [positions]

/-- The accounts at the positions of the mints and the token programs, one
of either for each side. -/
def Forward (s : SwapLayout) (keys : List Pubkey)
    (inputMint inputProgram outputMint outputProgram : Pubkey) : Prop :=
  (∀ i ∈ s.inputMint, keys[i]? = some inputMint)
    ∧ (∀ i ∈ s.outputMint, keys[i]? = some outputMint)
    ∧ (∀ i ∈ s.inputProgram, keys[i]? = some inputProgram)
    ∧ ∀ i ∈ s.outputProgram, keys[i]? = some outputProgram

/-- **The mints and the token programs a swap lists are those of its two
sides**; where the pool's order is listed, in either direction. -/
def Agrees (s : SwapLayout) (keys : List Pubkey)
    (inputMint inputProgram outputMint outputProgram : Pubkey) : Prop :=
  s.Forward keys inputMint inputProgram outputMint outputProgram
    ∨ s.paired = true ∧ s.Forward keys outputMint outputProgram inputMint inputProgram

end SwapLayout

namespace SwapKind

/-- Every kind, in the order in which the tables try them. -/
def all : List SwapKind :=
  [launchlabBuy, cpmm, pumpswapBuy, pumpswapSell, ammV4, clmm, dlmm, damm, whirlpool]

theorem mem_all (k : SwapKind) : k ∈ all := by
  cases k <;> decide

/-- The program that runs the swap. -/
def programId : SwapKind → Pubkey
  | launchlabBuy => Sdk.launchlabProgram
  | cpmm => Sdk.raydiumCpmmProgram
  | pumpswapBuy => Sdk.pumpswapProgram
  | pumpswapSell => Sdk.pumpswapProgram
  | ammV4 => Sdk.raydiumAmmV4Program
  | clmm => Sdk.raydiumClmmProgram
  | dlmm => Sdk.meteoraDlmmProgram
  | damm => Sdk.meteoraDammV2Program
  | whirlpool => Sdk.orcaWhirlpoolProgram

/-- **The two tails of a Whirlpool swap**: no supplemental tick arrays, or
a slice description that announces one to three of them. -/
def WhirlpoolTail (data : List UInt8) : Prop :=
  (data.length = 43 ∧ data[42]? = some 0)
    ∨ (data.length = 49 ∧ range? data 42 48 = some [1, 1, 0, 0, 0, 6]
      ∧ data[48]?.any (fun n => 1 ≤ n ∧ n ≤ 3))

instance : DecidablePred WhirlpoolTail :=
  fun _ => inferInstanceAs (Decidable (_ ∨ _))

/-- **The data a swap of each kind carries**: its length, discriminator and
the bytes that make it an exact-input swap without options. -/
def Shape : SwapKind → List UInt8 → Prop
  | launchlabBuy, d => d.length = 32 ∧ range? d 0 8 = some Sdk.buyExactInLaunchlab
      ∧ range? d 24 32 = some (List.replicate 8 0)
  | cpmm, d => d.length = 24 ∧ range? d 0 8 = some Sdk.cpmmSwapBaseIn
  | pumpswapBuy, d => d.length = 25 ∧ range? d 0 8 = some Sdk.pumpswapBuyExactQuoteIn
      ∧ d[24]?.any (fun b => b ≤ 1)
  | pumpswapSell, d => d.length = 24 ∧ range? d 0 8 = some Sdk.pumpswapSell
  | ammV4, d => d.length = 17 ∧ d[0]? = some Sdk.raydiumAmmV4SwapBaseInV2
  | clmm, d => d.length = 41 ∧ range? d 0 8 = some Sdk.clmmSwapV2 ∧ d[40]? = some 1
  | dlmm, d => d.length = 28 ∧ range? d 0 8 = some Sdk.meteoraDlmmSwap2
      ∧ range? d 24 28 = some (List.replicate 4 0)
  | damm, d => d.length = 25 ∧ range? d 0 8 = some Sdk.meteoraDammV2Swap2
      ∧ d[24]? = some Sdk.meteoraDammV2ExactIn
  | whirlpool, d => WhirlpoolTail d ∧ range? d 0 8 = some Sdk.whirlpoolSwapV2
      ∧ d[40]? = some 1 ∧ d[41]?.any (fun b => b ≤ 1)

instance : ∀ k, DecidablePred (Shape k)
  | launchlabBuy => fun _ => inferInstanceAs (Decidable (_ ∧ _ ∧ _))
  | cpmm => fun _ => inferInstanceAs (Decidable (_ ∧ _))
  | pumpswapBuy => fun _ => inferInstanceAs (Decidable (_ ∧ _ ∧ _))
  | pumpswapSell => fun _ => inferInstanceAs (Decidable (_ ∧ _))
  | ammV4 => fun _ => inferInstanceAs (Decidable (_ ∧ _))
  | clmm => fun _ => inferInstanceAs (Decidable (_ ∧ _ ∧ _))
  | dlmm => fun _ => inferInstanceAs (Decidable (_ ∧ _ ∧ _))
  | damm => fun _ => inferInstanceAs (Decidable (_ ∧ _ ∧ _))
  | whirlpool => fun _ => inferInstanceAs (Decidable (_ ∧ _ ∧ _ ∧ _))

/-- **The instructions of a kind**: those of its program with its shape. -/
def Accepts (k : SwapKind) (program : Pubkey) (data : List UInt8) : Prop :=
  program = k.programId ∧ k.Shape data

instance (k : SwapKind) (program : Pubkey) (data : List UInt8) :
    Decidable (k.Accepts program data) :=
  inferInstanceAs (Decidable (_ ∧ _))

/-- The direction of a Whirlpool swap. -/
def aToB (data : List UInt8) : Bool := data[41]? = some 1

/-- The positions of a swap's accounts. -/
def layout : SwapKind → List UInt8 → SwapLayout
  | launchlabBuy, _ => ⟨6, 5, 0, 8, some 10, some 12, some 9, some 11, false⟩
  | cpmm, _ => ⟨4, 5, 0, 8, some 10, some 8, some 11, some 9, false⟩
  | pumpswapBuy, _ => ⟨6, 5, 1, 8, some 4, some 12, some 3, some 11, false⟩
  | pumpswapSell, _ => ⟨5, 6, 1, 8, some 3, some 11, some 4, some 12, false⟩
  | ammV4, _ => ⟨5, 6, 7, 1, none, some 0, none, some 0, false⟩
  | clmm, _ => ⟨3, 4, 0, 8, some 11, none, some 12, none, false⟩
  | dlmm, _ => ⟨4, 5, 10, 8, some 6, some 11, some 7, some 12, true⟩
  | damm, _ => ⟨2, 3, 8, 8, some 6, some 9, some 7, some 10, true⟩
  | whirlpool, d =>
    if aToB d then ⟨7, 9, 3, 8, some 5, some 0, some 6, some 1, false⟩
    else ⟨9, 7, 3, 8, some 6, some 1, some 5, some 0, false⟩

/-- How many supplemental tick arrays a Whirlpool swap announces. -/
def supplemental (data : List UInt8) : ℕ :=
  if data.length = 49 then (data[48]?.map UInt8.toNat).getD 0 else 0

/-- The number of accounts a swap needs. -/
def minimumAccounts : SwapKind → List UInt8 → ℕ
  | launchlabBuy, _ => 13
  | cpmm, _ => 12
  | pumpswapBuy, _ => 13
  | pumpswapSell, _ => 13
  | ammV4, _ => 8
  | clmm, _ => 13
  | dlmm, _ => 13
  | damm, _ => 11
  | whirlpool, d => 15 + supplemental d

/-- **The kind of an instruction**, if it is a supported swap. -/
def recognize (program : Pubkey) (data : List UInt8) : Option SwapKind :=
  all.find? (fun k => k.Accepts program data)

/-! ## The conditions the tables compute -/

section

open Outcome

variable {ε : Type}

/-- The condition of a kind's branch, as a program computes it; how the tail
of a Whirlpool swap is tested is left to the program. -/
def condition (tail : Except (Abort ε) Bool) (program : Pubkey) (d : List UInt8) :
    SwapKind → Except (Abort ε) Bool
  | launchlabBuy => allOf [.ok (program = Sdk.launchlabProgram), .ok (d.length = 32),
      sliceIs d 0 8 Sdk.buyExactInLaunchlab, sliceIs d 24 32 (List.replicate 8 0)]
  | cpmm => allOf [.ok (program = Sdk.raydiumCpmmProgram), .ok (d.length = 24),
      sliceIs d 0 8 Sdk.cpmmSwapBaseIn]
  | pumpswapBuy => allOf [.ok (program = Sdk.pumpswapProgram), .ok (d.length = 25),
      sliceIs d 0 8 Sdk.pumpswapBuyExactQuoteIn, indexIs d 24 (· ≤ 1)]
  | pumpswapSell => allOf [.ok (program = Sdk.pumpswapProgram), .ok (d.length = 24),
      sliceIs d 0 8 Sdk.pumpswapSell]
  | ammV4 => allOf [.ok (program = Sdk.raydiumAmmV4Program), .ok (d.length = 17),
      indexIs d 0 (· = Sdk.raydiumAmmV4SwapBaseInV2)]
  | clmm => allOf [.ok (program = Sdk.raydiumClmmProgram), .ok (d.length = 41),
      sliceIs d 0 8 Sdk.clmmSwapV2, indexIs d 40 (· = 1)]
  | dlmm => allOf [.ok (program = Sdk.meteoraDlmmProgram), .ok (d.length = 28),
      sliceIs d 0 8 Sdk.meteoraDlmmSwap2, sliceIs d 24 28 (List.replicate 4 0)]
  | damm => allOf [.ok (program = Sdk.meteoraDammV2Program), .ok (d.length = 25),
      sliceIs d 0 8 Sdk.meteoraDammV2Swap2, indexIs d 24 (· = Sdk.meteoraDammV2ExactIn)]
  | whirlpool => allOf [.ok (program = Sdk.orcaWhirlpoolProgram), tail,
      sliceIs d 0 8 Sdk.whirlpoolSwapV2, indexIs d 40 (· = 1), indexIs d 41 (· ≤ 1)]

/-- A small byte is tested without a panic. -/
theorem indexIs_le_of_lt {d : List UInt8} {i : ℕ} (hi : i < d.length) :
    (indexIs d i (fun b => decide (b ≤ 1)) : Except (Abort ε) Bool)
      = .ok (decide (d[i]?.any (fun b => b ≤ 1) = true)) := by
  rw [indexIs_of_lt hi, Bool.decide_eq_true]

/-- **A condition is computed without a panic, and decides its kind**: every
slice it takes is within the length it has checked before. -/
theorem condition_eq {tail : Except (Abort ε) Bool} {program : Pubkey} {d : List UInt8}
    (htail : tail = .ok (decide (WhirlpoolTail d))) (k : SwapKind) :
    condition tail program d k = .ok (decide (k.Accepts program d)) := by
  cases k with
  | launchlabBuy =>
    exact allOf_cons rfl fun _ => allOf_cons rfl fun h =>
      allOf_cons (sliceIs_of_le (by omega) (by omega)) fun _ =>
      allOf_single (sliceIs_of_le (by omega) (by omega))
  | cpmm =>
    exact allOf_cons rfl fun _ => allOf_cons rfl fun h =>
      allOf_single (sliceIs_of_le (by omega) (by omega))
  | pumpswapBuy =>
    exact allOf_cons rfl fun _ => allOf_cons rfl fun h =>
      allOf_cons (sliceIs_of_le (by omega) (by omega)) fun _ =>
      allOf_single (indexIs_le_of_lt (by omega))
  | pumpswapSell =>
    exact allOf_cons rfl fun _ => allOf_cons rfl fun h =>
      allOf_single (sliceIs_of_le (by omega) (by omega))
  | ammV4 =>
    exact allOf_cons rfl fun _ => allOf_cons rfl fun h =>
      allOf_single (indexIs_eq_of_lt (by omega))
  | clmm =>
    exact allOf_cons rfl fun _ => allOf_cons rfl fun h =>
      allOf_cons (sliceIs_of_le (by omega) (by omega)) fun _ =>
      allOf_single (indexIs_eq_of_lt (by omega))
  | dlmm =>
    exact allOf_cons rfl fun _ => allOf_cons rfl fun h =>
      allOf_cons (sliceIs_of_le (by omega) (by omega)) fun _ =>
      allOf_single (sliceIs_of_le (by omega) (by omega))
  | damm =>
    exact allOf_cons rfl fun _ => allOf_cons rfl fun h =>
      allOf_cons (sliceIs_of_le (by omega) (by omega)) fun _ =>
      allOf_single (indexIs_eq_of_lt (by omega))
  | whirlpool =>
    refine allOf_cons rfl fun _ => allOf_cons htail fun h => ?_
    have hlen : d.length = 43 ∨ d.length = 49 := h.imp And.left And.left
    exact allOf_cons (sliceIs_of_le (by omega) (by omega)) fun _ =>
      allOf_cons (indexIs_eq_of_lt (by omega)) fun _ =>
      allOf_single (indexIs_le_of_lt (by omega))

/-- The two tails of a Whirlpool swap, as a program tests them. -/
theorem shortTail_eq (d : List UInt8) :
    allOf [.ok (decide (d.length = 43)), indexIs d 42 (· = 0)]
      = (.ok (decide (d.length = 43 ∧ d[42]? = some 0)) : Except (Abort ε) Bool) :=
  allOf_cons rfl fun h => allOf_single (indexIs_eq_of_lt (by omega))

theorem longTail_eq (d : List UInt8) :
    allOf [.ok (decide (d.length = 49)), sliceIs d 42 48 [1, 1, 0, 0, 0, 6],
        indexIs d 48 (fun n => 1 ≤ n ∧ n ≤ 3)]
      = (.ok (decide (d.length = 49 ∧ range? d 42 48 = some [1, 1, 0, 0, 0, 6]
          ∧ d[48]?.any (fun n => 1 ≤ n ∧ n ≤ 3))) : Except (Abort ε) Bool) := by
  refine allOf_cons rfl fun h => allOf_cons (sliceIs_of_le (by omega) (by omega))
    fun _ => allOf_single ?_
  rw [indexIs_of_lt (by omega), Bool.decide_eq_true]

end

/-! ## Facts about the table -/

/-- Two kinds of one program differ in the length of their data. -/
theorem eq_of_programId_eq {k k' : SwapKind} {data : List UInt8}
    (hp : k.programId = k'.programId) (h : k.Shape data) (h' : k'.Shape data) :
    k = k' := by
  cases k <;> cases k' <;> first
    | rfl
    | exact absurd hp (by decide)
    | exact absurd (h.1.symm.trans h'.1) (by decide)

/-- **The kinds are disjoint**: no instruction is of two of them. -/
theorem accepts_unique {k k' : SwapKind} {program : Pubkey} {data : List UInt8}
    (h : k.Accepts program data) (h' : k'.Accepts program data) : k = k' :=
  eq_of_programId_eq (h.1.symm.trans h'.1) h.2 h'.2

theorem recognize_eq_some {program : Pubkey} {data : List UInt8} {k : SwapKind} :
    recognize program data = some k ↔ k.Accepts program data := by
  unfold recognize
  constructor
  · intro h
    simpa using List.find?_some h
  · intro h
    have hsome : (all.find? (fun k => k.Accepts program data)).isSome := by
      rw [List.find?_isSome]
      exact ⟨k, mem_all k, decide_eq_true h⟩
    obtain ⟨k', hk'⟩ := Option.isSome_iff_exists.mp hsome
    have hacc : k'.Accepts program data := by simpa using List.find?_some hk'
    rw [hk', accepts_unique hacc h]

theorem recognize_eq_none {program : Pubkey} {data : List UInt8} :
    recognize program data = none ↔ ∀ k : SwapKind, ¬ k.Accepts program data := by
  unfold recognize
  rw [List.find?_eq_none]
  exact ⟨fun h k hk => h k (mem_all k) (decide_eq_true hk),
    fun h k _ hk => h k (of_decide_eq_true hk)⟩

/-- **What is computed from the kind of a leg** is computed exactly of the legs
of some kind. -/
theorem elim_recognize_eq_ok {ε α : Type} {program : Pubkey} {data : List UInt8}
    {refused : Except ε α} (hrefused : ∀ a, refused ≠ .ok a) {f : SwapKind → α} {a : α} :
    (recognize program data).elim refused (fun k => .ok (f k)) = .ok a ↔
      ∃ k : SwapKind, k.Accepts program data ∧ a = f k := by
  cases h : recognize program data with
  | none =>
    refine iff_of_false (hrefused a) ?_
    rintro ⟨k, hk, -⟩
    exact recognize_eq_none.mp h k hk
  | some k =>
    rw [recognize_eq_some] at h
    constructor
    · intro hl
      cases hl
      exact ⟨k, h, rfl⟩
    · rintro ⟨k', hk', rfl⟩
      rw [accepts_unique hk' h, Option.elim_some]

/-- A Whirlpool swap has one of its two lengths. -/
theorem WhirlpoolTail.length_eq {data : List UInt8} (h : WhirlpoolTail data) :
    data.length = 43 ∨ data.length = 49 :=
  h.imp And.left And.left

/-- Either direction of a Whirlpool swap has its amount at one offset. -/
theorem layout_whirlpool_amountOffset (data : List UInt8) :
    (layout whirlpool data).amountOffset = 8 := by
  rw [layout]
  split <;> rfl

/-- **The amount fits**: the eight input bytes lie inside the data, and the
data inside the program's patch buffer. -/
theorem Shape.amount_fits {k : SwapKind} {data : List UInt8} (h : k.Shape data) :
    (k.layout data).amountOffset + 8 ≤ data.length ∧ data.length ≤ 49 := by
  cases k with
  | whirlpool =>
    have hoff := layout_whirlpool_amountOffset data
    have hlen := h.1.length_eq
    omega
  | _ =>
    have hlen := h.1
    simp only [layout]
    omega

/-- **Every position of a layout is among the accounts the swap needs.** -/
theorem positions_lt (k : SwapKind) (data : List UInt8) :
    ∀ i ∈ (k.layout data).positions, i < k.minimumAccounts data := by
  cases k with
  | whirlpool =>
    have hmin : 15 ≤ minimumAccounts whirlpool data := Nat.le_add_right 15 _
    intro i hi
    have hlt : i < 15 := by
      revert i
      rw [layout]
      split <;> decide
    omega
  | _ =>
    simp only [layout, minimumAccounts]
    decide

/-- A layout in the pool's order has all four of its positions. -/
theorem isSome_of_paired {k : SwapKind} {data : List UInt8}
    (h : (k.layout data).paired = true) :
    (k.layout data).inputMint.isSome ∧ (k.layout data).inputProgram.isSome
      ∧ (k.layout data).outputMint.isSome ∧ (k.layout data).outputProgram.isSome := by
  cases k with
  | whirlpool =>
    rw [layout] at h
    split at h <;> cases h
  | _ =>
    revert h
    simp only [layout]
    decide

/-- No swap needs many accounts. -/
theorem minimumAccounts_le {k : SwapKind} {data : List UInt8} (h : k.Shape data) :
    k.minimumAccounts data ≤ 18 := by
  cases k with
  | whirlpool =>
    have hle : supplemental data ≤ 3 := by
      rw [supplemental]
      split
      · rename_i hlen
        rcases h.1 with ⟨hshort, -⟩ | ⟨-, -, hcount⟩
        · omega
        · cases hd : data[48]? with
          | none => simp
          | some n =>
            rw [hd, Option.any_some, decide_eq_true_eq] at hcount
            exact UInt8.le_iff_toNat_le.mp hcount.2
      · omega
    show 15 + supplemental data ≤ 18
    omega
  | _ =>
    simp only [minimumAccounts]
    omega

end SwapKind
