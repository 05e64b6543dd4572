import SolTradeRouter.RouteIx
import SolTradeRouter.RouteRun

/-!
# The wire format of a route

The SDK's encoder and the program's parser agree: parsing what a builder
emits yields the header it was given and, leg by leg, the program, the data
and the accounts of the leg. Two cursors run here, one over the bytes and
one over the accounts, and the round trip is by induction on the legs: each
leg is parsed off the front of what is left, and leaves both cursors at the
start of the next.

The accounts are compared through an arbitrary function `view` of the
metas. With the identity it is the metas that are recovered; with the
function that grants each address the merged privileges of the
transaction, it is the accounts as the chain presents them.
-/

namespace WireFormat

open Outcome Bytes Program Sdk

/-! ## Reading what was appended -/

theorem readU64_append (p : List UInt8) (n : UInt64) (post : List UInt8) {offset : ℕ}
    (h : p.length = offset) (hlt : offset + 8 < 2 ^ 64) :
    readU64 (p ++ (ofUInt64 n ++ post)) offset = .ok n := by
  refine readU64_eq_ok.mpr ⟨hlt, ofUInt64 n, range?_eq_some_iff.mpr ⟨p, post, ?_, h, ?_⟩,
    toUInt64_ofUInt64 n⟩
  · rw [List.append_assoc]
  · rw [length_ofUInt64]

theorem readAddress_append (p : List UInt8) (k : Pubkey) (post : List UInt8) {offset : ℕ}
    (h : p.length = offset) : readAddress (p ++ (k.bytes ++ post)) offset = .ok k := by
  refine readAddress_eq_ok.mpr (range?_eq_some_iff.mpr ⟨p, post, ?_, h, ?_⟩)
  · rw [List.append_assoc]
  · rw [k.size]

theorem index_append {ε : Type} (p : List UInt8) (b : UInt8) (post : List UInt8) {i : ℕ}
    (h : p.length = i) : (index (p ++ b :: post) i : Except (Abort ε) UInt8) = .ok b := by
  rw [index_eq_ok, ← h, List.getElem?_append_right (Nat.le_refl _), Nat.sub_self]
  rfl

/-! ## The header -/

/-- The header as every builder writes it, after the tag; the minimums of a
dynamic route stand at its end. -/
def encodeHeader (amountIn minAmountOut : UInt64) (feeAssetByte numLegs : UInt8)
    (mint : Pubkey) (minimums : List UInt64) : List UInt8 :=
  ofUInt64 amountIn ++ (ofUInt64 minAmountOut ++ (feeAssetByte :: numLegs ::
    (mint.bytes ++ minimums.flatMap ofUInt64)))

theorem length_encodeHeader (amountIn minAmountOut : UInt64) (feeAssetByte numLegs : UInt8)
    (mint : Pubkey) (minimums : List UInt64) :
    (encodeHeader amountIn minAmountOut feeAssetByte numLegs mint minimums).length
      = routeHeaderLen + 8 * minimums.length := by
  have hmin : (minimums.flatMap ofUInt64).length = 8 * minimums.length := by
    induction minimums with
    | nil => rfl
    | cons n ns ih =>
      rw [List.flatMap_cons, List.length_append, ih, length_ofUInt64, List.length_cons]
      omega
  simp only [encodeHeader, List.length_append, List.length_cons, length_ofUInt64,
    mint.size, hmin, routeHeaderLen]
  omega

/-- The header the parser recovers. -/
def recoveredHeader (amountIn minAmountOut : UInt64) (feeAssetByte numLegs : UInt8)
    (mint : Pubkey) (minimums : List UInt64) : RouteHeader where
  amountIn := amountIn
  minAmountOut := minAmountOut
  feeAssetByte := feeAssetByte
  numLegs := numLegs.toNat
  expectedOutputMint := mint
  intermediateMinOut := minimums[0]?.getD 0
  secondIntermediateMinOut := minimums[1]?.getD 0

/-- **The header is recovered.** -/
theorem readHeader_encode (amountIn minAmountOut : UInt64) (feeAssetByte numLegs : UInt8)
    (mint : Pubkey) {minimums : List UInt64} (hmin : minimums.length ≤ 2)
    (rest : List UInt8) :
    readHeader (encodeHeader amountIn minAmountOut feeAssetByte numLegs mint minimums
        ++ rest) minimums.length
      = .ok (recoveredHeader amountIn minAmountOut feeAssetByte numLegs mint minimums) := by
  have hlen := length_encodeHeader amountIn minAmountOut feeAssetByte numLegs mint minimums
  set data := encodeHeader amountIn minAmountOut feeAssetByte numLegs mint minimums ++ rest
    with hdata
  have hlong : ¬ data.length < routeHeaderLen + 8 * minimums.length := by
    rw [hdata, List.length_append, hlen]
    omega
  have hin : readU64 data 0 = .ok amountIn := by
    rw [hdata, encodeHeader, List.append_assoc]
    exact readU64_append [] _ _ rfl (by decide)
  have hout : readU64 data 8 = .ok minAmountOut := by
    rw [hdata, encodeHeader, List.append_assoc, List.append_assoc]
    exact readU64_append _ _ _ (length_ofUInt64 _) (by decide)
  have hasset : (index data 16 : Read UInt8) = .ok feeAssetByte := by
    rw [hdata, encodeHeader, List.append_assoc, List.append_assoc, ← List.append_assoc]
    exact index_append _ _ _ (by simp)
  have hlegs : (index data 17 : Read UInt8) = .ok numLegs := by
    have h : data = (ofUInt64 amountIn ++ ofUInt64 minAmountOut ++ [feeAssetByte])
        ++ numLegs :: (mint.bytes ++ minimums.flatMap ofUInt64 ++ rest) := by
      simp [hdata, encodeHeader]
    rw [h]
    exact index_append _ _ _ (by simp)
  have hmint : readAddress data 18 = .ok mint := by
    have h : data = (ofUInt64 amountIn ++ ofUInt64 minAmountOut ++ [feeAssetByte, numLegs])
        ++ (mint.bytes ++ (minimums.flatMap ofUInt64 ++ rest)) := by
      simp [hdata, encodeHeader]
    rw [h]
    exact readAddress_append _ _ _ (by simp)
  have hbase : data = (ofUInt64 amountIn ++ ofUInt64 minAmountOut ++ [feeAssetByte, numLegs]
      ++ mint.bytes) ++ (minimums.flatMap ofUInt64 ++ rest) := by
    simp [hdata, encodeHeader]
  have hbaseLen : (ofUInt64 amountIn ++ ofUInt64 minAmountOut ++ [feeAssetByte, numLegs]
      ++ mint.bytes).length = routeHeaderLen := by
    simp [routeHeaderLen]
  have hfirst : readMinimum (minimums.length ≠ 0) data routeHeaderLen
      = .ok (minimums[0]?.getD 0) := by
    rw [hbase]
    match minimums with
    | [] => rfl
    | n :: ns =>
      show readU64 _ _ = _
      rw [List.flatMap_cons, List.append_assoc]
      exact readU64_append _ _ _ hbaseLen (by decide)
  have hsecond : readMinimum (minimums.length = 2) data (routeHeaderLen + 8)
      = .ok (minimums[1]?.getD 0) := by
    rw [hbase]
    match minimums, hmin with
    | [], _ => rfl
    | [n], _ => rfl
    | [n, n'], _ =>
      show readU64 _ _ = _
      rw [List.flatMap_cons, List.flatMap_cons, List.append_assoc (ofUInt64 n),
        ← List.append_assoc _ (ofUInt64 n), List.append_assoc (ofUInt64 n')]
      exact readU64_append _ _ _ (by rw [List.length_append, hbaseLen, length_ofUInt64])
        (by decide)
  unfold readHeader
  simp only [failIf, if_neg hlong, hin, hout, hasset, hlegs, hmint, hfirst, hsecond, ok_bind]
  rfl

/-! ## The legs -/

/-- A leg within the limits of the format. -/
structure WellSized (leg : Leg) : Prop where
  accounts_pos : 0 < leg.accounts.length
  accounts_le : leg.accounts.length ≤ Program.maxLegAccounts
  data_lt : leg.data.length < 2 ^ 16

/-- The leg the parser recovers. -/
def recoveredLeg {α : Type} (view : AccountMeta → α) (leg : Leg) : ParsedLeg α where
  programId := leg.programId
  numAccounts := leg.accounts.length
  data := leg.data
  accounts := leg.accounts.map view

variable {α : Type} (view : AccountMeta → α)

theorem length_encodeLeg (leg : Leg) :
    (encodeLeg leg).length = 35 + leg.data.length := by
  simp only [encodeLeg, List.length_append, leg.programId.size, length_ofUInt16,
    List.length_cons, List.length_nil]

/-- **One leg is parsed off the front**, and both cursors move past it. -/
theorem parseLeg_encode {leg : Leg} (h : WellSized leg) (p post : List UInt8)
    (pa posta : List α) (hcursor : p.length + (encodeLeg leg).length < 2 ^ 64)
    (hlt : pa.length + leg.accounts.length < 2 ^ 64) :
    parseLeg (p ++ (encodeLeg leg ++ post)) (pa ++ (leg.accounts.map view ++ posta))
        ⟨p.length, pa.length⟩
      = .ok (recoveredLeg view leg,
        ⟨p.length + (encodeLeg leg).length, pa.length + leg.accounts.length⟩) := by
  have hprogram := leg.programId.size
  have hsize := length_ofUInt16 (UInt16.ofNat leg.data.length)
  refine parseLeg_eq_ok.mpr {
    program := range?_eq_some_iff.mpr ⟨p, [UInt8.ofNat leg.accounts.length]
      ++ ofUInt16 (UInt16.ofNat leg.data.length) ++ leg.data ++ post, ?_, rfl, ?_⟩
    count := ?_
    count_pos := h.accounts_pos
    count_le := h.accounts_le
    size := range?_eq_some_iff.mpr ⟨p ++ leg.programId.bytes
      ++ [UInt8.ofNat leg.accounts.length], leg.data ++ post, ?_, ?_, ?_⟩
    payload := range?_eq_some_iff.mpr ⟨p ++ leg.programId.bytes
      ++ [UInt8.ofNat leg.accounts.length] ++ ofUInt16 (UInt16.ofNat leg.data.length), post,
      ?_, ?_, rfl⟩
    size_lt := h.data_lt
    cursor_lt := ?_
    offset_lt := hlt
    accounts := range?_eq_some_iff.mpr ⟨pa, posta, (List.append_assoc ..).symm, rfl, ?_⟩
    cursor_eq := ?_
    remainingOffset_eq := rfl }
  · simp [encodeLeg, recoveredLeg]
  · show p.length + leg.programId.bytes.length = _
    rw [hprogram]
  · show (p ++ (encodeLeg leg ++ post))[p.length + 32]?
      = some (UInt8.ofNat leg.accounts.length)
    rw [List.getElem?_append_right (Nat.le_add_right _ _), Nat.add_sub_cancel_left]
    simp [encodeLeg, hprogram]
  · simp [encodeLeg, recoveredLeg]
  · simp only [List.length_append, hprogram, List.length_cons, List.length_nil]
  · show p.length + 33 + _ = _
    rw [show (recoveredLeg view leg).data = leg.data from rfl, hsize]
  · simp [encodeLeg, recoveredLeg]
  · simp only [List.length_append, hprogram, hsize, List.length_cons, List.length_nil]
  · show p.length + 35 + leg.data.length < 2 ^ 64
    rw [length_encodeLeg] at hcursor
    omega
  · show pa.length + (leg.accounts.map view).length = pa.length + leg.accounts.length
    rw [List.length_map]
  · show p.length + (encodeLeg leg).length = p.length + 35 + leg.data.length
    rw [length_encodeLeg]
    omega

/-- **The legs are recovered in order**, from wherever they start, and what
follows their data and their accounts does not matter. -/
theorem parseLegs_encode {legs : List Leg} (h : ∀ leg ∈ legs, WellSized leg)
    (p post : List UInt8) (pa posta : List α)
    (hcursor : (p ++ legs.flatMap encodeLeg).length < 2 ^ 64)
    (hlt : pa.length + (legs.flatMap Leg.accounts).length < 2 ^ 64) :
    parseLegs (p ++ (legs.flatMap encodeLeg ++ post))
        (pa ++ ((legs.flatMap Leg.accounts).map view ++ posta)) legs.length
        ⟨p.length, pa.length⟩
      = .ok (legs.map (recoveredLeg view),
        ⟨(p ++ legs.flatMap encodeLeg).length,
          pa.length + (legs.flatMap Leg.accounts).length⟩) := by
  induction legs generalizing p pa with
  | nil => simp [parseLegs, pure, Except.pure]
  | cons leg legs ih =>
    rw [List.flatMap_cons, List.length_append] at hlt
    rw [List.flatMap_cons, List.length_append, List.length_append] at hcursor
    have hfirst := parseLeg_encode view (h leg (List.mem_cons_self ..)) p
      (legs.flatMap encodeLeg ++ post) pa ((legs.flatMap Leg.accounts).map view ++ posta)
      (by omega) (by omega)
    have hrest := ih (fun leg' hleg' => h leg' (List.mem_cons_of_mem _ hleg'))
      (p ++ encodeLeg leg) (pa ++ leg.accounts.map view)
      (by rw [List.length_append, List.length_append]; omega)
      (by rw [List.length_append, List.length_map]; omega)
    simp only [List.length_append, List.length_map, List.append_assoc] at hrest
    simp only [List.flatMap_cons, List.map_append, List.length_cons, List.append_assoc,
      parseLegs, hfirst, hrest, ok_bind, List.map_cons]
    simp only [pure, Except.pure, List.length_append]
    rw [Nat.add_assoc]

/-! ## The accounts -/

/-- What a builder was asked for. Each intermediate account of a dynamic
route comes with the least it must receive. -/
structure Request where
  tag : UInt8
  amountIn : UInt64
  minAmountOut : UInt64
  feeAsset : UInt8
  exactOut : Bool
  expectedOutputMint : Pubkey
  hops : List (Pubkey × UInt64)
  legs : List Leg

/-- The accounts the parser names. -/
def namedAccounts [Pda] (programId : Pubkey) (accounts : Sdk.RouteAccounts)
    (hops : List (Pubkey × UInt64)) (remaining : List AccountMeta) :
    Program.RouteAccounts α where
  user := view (.new accounts.payer true)
  config := view (.newReadonly (Sdk.configPda programId).1 false)
  feeDestination := view (.new accounts.feeDestination false)
  feeSource := view (.new accounts.feeSource false)
  userOutput := view (.new accounts.outputTokenAccount false)
  feeProgram := view (.newReadonly accounts.feeProgram false)
  intermediate := hops[0]?.map (fun hop => view (.new hop.1 false))
  secondIntermediate := hops[1]?.map (fun hop => view (.new hop.1 false))
  remaining := remaining.map view

/-- The metas before those of the legs. -/
def leadingMetas [Pda] (programId : Pubkey) (accounts : Sdk.RouteAccounts)
    (hops : List (Pubkey × UInt64)) : List AccountMeta :=
  fixedMetas programId accounts ++ hops.map (fun hop => .new hop.1 false)

/-- **The fixed accounts are recovered.** -/
theorem splitAccounts_leadingMetas [Pda] (programId : Pubkey)
    (accounts : Sdk.RouteAccounts) {hops : List (Pubkey × UInt64)} (h : hops.length ≤ 2)
    (remaining : List AccountMeta) :
    splitAccounts ((leadingMetas programId accounts hops ++ remaining).map view) hops.length
      = .ok (namedAccounts view programId accounts hops remaining) := by
  match hops, h with
  | [], _ | [_], _ | [_, _], _ =>
    simp [leadingMetas, fixedMetas, splitAccounts, splitFirst, splitFirstIf,
      namedAccounts, pure, Except.pure]

/-- The metas of the legs' programs name each of them, when there is room
to remember them or they repeat. -/
theorem exists_mem_programMetas (capacity : ℕ) {legs : List Leg} {seen : List Pubkey}
    {leg : Leg} (h : leg ∈ legs) :
    leg.programId ∈ seen ∨ ∃ x ∈ programMetas capacity legs seen,
      x.pubkey = leg.programId := by
  induction legs generalizing seen with
  | nil => cases h
  | cons first legs ih =>
    rw [programMetas]
    rcases List.mem_cons.mp h with rfl | hrest
    · by_cases hseen : leg.programId ∈ seen
      · exact .inl hseen
      · rw [if_neg hseen]
        exact .inr ⟨_, List.mem_cons_self .., rfl⟩
    · split
      · exact ih hrest
      · -- A program remembered now is the one whose meta stands here.
        have hrest' : leg.programId ∈ (if seen.length < capacity
            then seen ++ [first.programId] else seen) ∨ _ := ih hrest
        rcases hrest' with hmem | ⟨x, hx, hkey⟩
        · split at hmem
          · rcases List.mem_append.mp hmem with hseen | hfirst
            · exact .inl hseen
            · rw [List.mem_singleton] at hfirst
              exact .inr ⟨_, List.mem_cons_self .., hfirst.symm⟩
          · exact .inl hmem
        · exact .inr ⟨x, List.mem_cons_of_mem _ hx, hkey⟩

/-- The mint of a Token-2022 fee is among the metas. -/
theorem exists_mem_appendFeeMint (metas : List AccountMeta) {accounts : Sdk.RouteAccounts}
    (h : accounts.feeProgram = token2022Program) :
    ∃ x ∈ appendFeeMint metas accounts, x.pubkey = accounts.feeMint := by
  unfold appendFeeMint
  split
  · exact ⟨.newReadonly accounts.feeMint false, by simp, rfl⟩
  · rename_i hc
    have hany := not_not.mp (not_and.mp hc h)
    obtain ⟨x, hx, hkey⟩ := List.any_eq_true.mp hany
    exact ⟨x, hx, of_decide_eq_true hkey⟩

/-- Appending the mint changes nothing that stands before it. -/
theorem exists_appendFeeMint (metas rest : List AccountMeta)
    (accounts : Sdk.RouteAccounts) :
    ∃ post, appendFeeMint (metas ++ rest) accounts = metas ++ (rest ++ post) := by
  unfold appendFeeMint
  split
  · exact ⟨_, List.append_assoc ..⟩
  · exact ⟨[], by rw [List.append_nil]⟩

/-! ## The route -/

/-- The byte of the fee's asset, with the exact-out flag. -/
def encodeFeeAsset (feeAsset : UInt8) (exactOut : Bool) : UInt8 :=
  if exactOut then (feeAsset &&& 0x01) ||| feeAssetExactOut else feeAsset &&& 0x01

/-- The two parts of the byte do not touch. -/
theorem encodeFeeAsset_parts (feeAsset : UInt8) (exactOut : Bool) :
    encodeFeeAsset feeAsset exactOut &&& 0x01 = feeAsset &&& 0x01
      ∧ decide (encodeFeeAsset feeAsset exactOut &&& 0x80 ≠ 0) = exactOut := by
  have hlow : (feeAsset &&& 0x01) &&& 0x01 = feeAsset &&& 0x01 := by
    rw [UInt8.and_assoc, UInt8.and_self]
  have hhigh : (feeAsset &&& 0x01) &&& 0x80 = 0 := by
    rw [UInt8.and_assoc]
    exact UInt8.and_zero
  have hor (m : UInt8) : ((feeAsset &&& 0x01) ||| feeAssetExactOut) &&& m
      = ((feeAsset &&& 0x01) &&& m) ||| (feeAssetExactOut &&& m) :=
    UInt8.toBitVec_inj.mp BitVec.and_or_distrib_right
  cases exactOut with
  | false =>
    refine ⟨hlow, ?_⟩
    show decide ((feeAsset &&& 0x01) &&& 0x80 ≠ 0) = false
    rw [hhigh]
    rfl
  | true =>
    constructor
    · show ((feeAsset &&& 0x01) ||| feeAssetExactOut) &&& 0x01 = feeAsset &&& 0x01
      rw [hor, hlow]
      exact UInt8.or_zero
    · show decide (((feeAsset &&& 0x01) ||| feeAssetExactOut) &&& 0x80 ≠ 0) = true
      rw [hor, hhigh]
      rfl

/-- **A route is recovered**: the tag, the header, the accounts, and the
legs with both cursors at their ends; every account and every program of a
leg is passed, and the mint of a Token-2022 fee is found where the program
looks for it. -/
structure Recovers [Pda] (programId : Pubkey) (accounts : Sdk.RouteAccounts) (r : Request)
    (ix : Instruction) : Prop where
  tag : ix.data = r.tag :: ix.data.tail
  header : ∃ h : RouteHeader, readHeader ix.data.tail r.hops.length = .ok h
    ∧ h.amountIn = r.amountIn ∧ h.minAmountOut = r.minAmountOut
    ∧ h.feeAssetByte = encodeFeeAsset r.feeAsset r.exactOut
    ∧ h.feeAsset = r.feeAsset ∧ h.exactOut = r.exactOut
    ∧ h.expectedOutputMint = r.expectedOutputMint ∧ h.numLegs = r.legs.length
    ∧ h.intermediateMinOut = (r.hops[0]?.map Prod.snd).getD 0
    ∧ h.secondIntermediateMinOut = (r.hops[1]?.map Prod.snd).getD 0
  legs : ∃ remaining : List AccountMeta,
    splitAccounts (ix.accounts.map view) r.hops.length
      = .ok (namedAccounts view programId accounts r.hops remaining)
    ∧ parseLegs ix.data.tail (remaining.map view) r.legs.length
        ⟨routeHeaderLen + 8 * r.hops.length, 0⟩
      = .ok (r.legs.map (recoveredLeg view),
        ⟨ix.data.tail.length, (r.legs.flatMap Leg.accounts).length⟩)
  leading : ∀ x ∈ leadingMetas programId accounts r.hops, x ∈ ix.accounts
  passed : ∀ leg ∈ r.legs, ∀ x ∈ leg.accounts, x ∈ ix.accounts
  programs : ∀ leg ∈ r.legs, ∃ x ∈ ix.accounts, x.pubkey = leg.programId
  feeMint : accounts.feeProgram = token2022Program →
    (∀ x ∈ leadingMetas programId accounts r.hops, x.pubkey ≠ accounts.feeMint) →
    ∀ (present : AccountMeta → AccountView), (∀ x, (present x).address = x.pubkey) →
    ∀ a, splitAccounts (ix.accounts.map present) r.hops.length = .ok a →
      ∃ x, feeMintAccount accounts.feeMint a = some x ∧ x.address = accounts.feeMint

/-- Legs within the limits have few accounts together. -/
theorem length_flatMap_accounts_le {legs : List Leg} (h : ∀ leg ∈ legs, WellSized leg) :
    (legs.flatMap Leg.accounts).length ≤ legs.length * Program.maxLegAccounts := by
  induction legs with
  | nil => exact Nat.zero_le _
  | cons leg legs ih =>
    have hle := (h leg (List.mem_cons_self ..)).accounts_le
    have hrest := ih (fun leg' hleg' => h leg' (List.mem_cons_of_mem _ hleg'))
    rw [List.flatMap_cons, List.length_append, List.length_cons, Nat.succ_mul]
    omega

/-- Legs within the limits have little data together. -/
theorem length_flatMap_encodeLeg_le {legs : List Leg} (h : ∀ leg ∈ legs, WellSized leg) :
    (legs.flatMap encodeLeg).length ≤ legs.length * (35 + 2 ^ 16) := by
  induction legs with
  | nil => exact Nat.zero_le _
  | cons leg legs ih =>
    have hlt := (h leg (List.mem_cons_self ..)).data_lt
    have hrest := ih (fun leg' hleg' => h leg' (List.mem_cons_of_mem _ hleg'))
    rw [List.flatMap_cons, List.length_append, List.length_cons, Nat.succ_mul,
      length_encodeLeg]
    omega

/-- **The shape all three builders share**, and what it gives. -/
theorem recovers_of_shape [Pda] {programId : Pubkey} {accounts : Sdk.RouteAccounts}
    {r : Request} {ix : Instruction} (programs : List AccountMeta) (feeAsset : UInt8)
    (hhops : r.hops.length ≤ 2) (hcount : r.legs.length ≤ 4)
    (hsized : ∀ leg ∈ r.legs, WellSized leg) (hasset : r.feeAsset = feeAsset &&& 0x01)
    (hprograms : ∀ leg ∈ r.legs, ∃ x ∈ programs, x.pubkey = leg.programId)
    (hdata : ix.data = r.tag :: (encodeHeader r.amountIn r.minAmountOut
      (encodeFeeAsset feeAsset r.exactOut) (UInt8.ofNat r.legs.length) r.expectedOutputMint
      (r.hops.map Prod.snd) ++ r.legs.flatMap encodeLeg))
    (haccounts : ix.accounts = appendFeeMint (leadingMetas programId accounts r.hops
      ++ (r.legs.flatMap Leg.accounts ++ programs)) accounts) :
    Recovers view programId accounts r ix := by
  obtain ⟨post, hpost⟩ := exists_appendFeeMint (leadingMetas programId accounts r.hops)
    (r.legs.flatMap Leg.accounts ++ programs) accounts
  have hix := haccounts.trans hpost
  have hlegs : (UInt8.ofNat r.legs.length).toNat = r.legs.length := by
    rw [UInt8.toNat_ofNat']
    omega
  have htotal : (r.legs.flatMap Leg.accounts).length < 2 ^ 64 := by
    have hle := length_flatMap_accounts_le hsized
    have hfour : r.legs.length * Program.maxLegAccounts ≤ 4 * Program.maxLegAccounts :=
      Nat.mul_le_mul_right _ hcount
    have hmax : Program.maxLegAccounts = 64 := rfl
    omega
  obtain ⟨hlow, hflag⟩ := encodeFeeAsset_parts feeAsset r.exactOut
  refine {
    tag := by rw [hdata, List.tail_cons]
    header := ⟨recoveredHeader r.amountIn r.minAmountOut
      (encodeFeeAsset feeAsset r.exactOut) (UInt8.ofNat r.legs.length) r.expectedOutputMint
      (r.hops.map Prod.snd), ?_, rfl, rfl, ?_, hlow.trans hasset.symm, hflag, rfl, hlegs,
      ?_, ?_⟩
    legs := ⟨r.legs.flatMap Leg.accounts ++ programs ++ post, ?_, ?_⟩
    leading := fun x hx => by rw [hix]; exact List.mem_append_left _ hx
    passed := ?_
    programs := ?_
    feeMint := ?_ }
  · rw [hdata, List.tail_cons]
    have h := readHeader_encode r.amountIn r.minAmountOut
      (encodeFeeAsset feeAsset r.exactOut) (UInt8.ofNat r.legs.length) r.expectedOutputMint
      (show (r.hops.map Prod.snd).length ≤ 2 by rw [List.length_map]; exact hhops)
      (r.legs.flatMap encodeLeg)
    rwa [List.length_map] at h
  · show encodeFeeAsset feeAsset r.exactOut = _
    rw [hasset, encodeFeeAsset, encodeFeeAsset, UInt8.and_assoc, UInt8.and_self]
  · show (r.hops.map Prod.snd)[0]?.getD 0 = _
    rw [List.getElem?_map]
  · show (r.hops.map Prod.snd)[1]?.getD 0 = _
    rw [List.getElem?_map]
  · rw [hix]
    exact splitAccounts_leadingMetas view programId accounts hhops _
  · have hlen := length_encodeHeader r.amountIn r.minAmountOut
      (encodeFeeAsset feeAsset r.exactOut) (UInt8.ofNat r.legs.length) r.expectedOutputMint
      (r.hops.map Prod.snd)
    rw [List.length_map] at hlen
    have hshort := length_flatMap_encodeLeg_le hsized
    have hfour : r.legs.length * (35 + 2 ^ 16) ≤ 4 * (35 + 2 ^ 16) :=
      Nat.mul_le_mul_right _ hcount
    have hheader : routeHeaderLen = 50 := rfl
    have h := parseLegs_encode view hsized (encodeHeader r.amountIn r.minAmountOut
      (encodeFeeAsset feeAsset r.exactOut) (UInt8.ofNat r.legs.length) r.expectedOutputMint
      (r.hops.map Prod.snd)) [] [] ((programs ++ post).map view)
      (by rw [List.length_append, hlen]; omega)
      (by rw [List.length_nil, Nat.zero_add]; exact htotal)
    rw [hlen, List.append_nil, List.nil_append, List.length_nil, Nat.zero_add] at h
    rw [hdata, List.tail_cons, List.append_assoc, List.map_append]
    exact h
  · intro leg hleg x hx
    rw [hix]
    exact List.mem_append_right _ (List.mem_append_left _ (List.mem_append_left _
      (List.mem_flatMap.mpr ⟨leg, hleg, hx⟩)))
  · intro leg hleg
    obtain ⟨x, hx, hkey⟩ := hprograms leg hleg
    refine ⟨x, ?_, hkey⟩
    rw [hix]
    exact List.mem_append_right _ (List.mem_append_left _ (List.mem_append_right _ hx))
  · intro htoken hfree present haddress a ha
    rw [hix, splitAccounts_leadingMetas present programId accounts hhops] at ha
    cases ha
    obtain ⟨x, hx, hkey⟩ := exists_mem_appendFeeMint
      (leadingMetas programId accounts r.hops ++ (r.legs.flatMap Leg.accounts ++ programs))
      htoken
    rw [hpost, List.mem_append] at hx
    have hmem := hx.resolve_left (fun hlead => hfree x hlead hkey)
    -- The search stops at the first account with the mint's address.
    have hfound : (((r.legs.flatMap Leg.accounts ++ programs ++ post).map present).find?
        (fun y => decide (y.address = accounts.feeMint))).isSome := by
      rw [List.find?_isSome]
      refine ⟨present x, List.mem_map_of_mem hmem, ?_⟩
      rw [haddress, hkey]
      exact decide_eq_true rfl
    obtain ⟨y, hy⟩ := Option.isSome_iff_exists.mp hfound
    refine ⟨y, ?_, by simpa using List.find?_some hy⟩
    show Option.filter _ (List.find? _ _) = _
    rw [namedAccounts, hy, Option.filter_some, haddress, AccountMeta.newReadonly_pubkey,
      htoken]
    rfl

/-! ## The builders -/

/-- A leg of a dynamic route that passed the checks is within the limits. -/
theorem wellSized_of_checked {leg : Leg} (hpos : leg.accounts ≠ [])
    (hle : leg.accounts.length ≤ 64) (hdata : leg.data.length ≤ 65535) : WellSized leg where
  accounts_pos := List.length_pos_iff.mpr hpos
  accounts_le := hle
  data_lt := Nat.lt_succ_of_le hdata

/-- A checked later leg lists accounts. -/
theorem accounts_ne_nil {leg : Leg} {payer input output : Pubkey} {zero launchlab : Bool}
    (h : ∃ layout, LegChecked leg payer input output zero launchlab layout) :
    leg.accounts ≠ [] := by
  obtain ⟨layout, h⟩ := h
  obtain ⟨x, hx, -⟩ := h.signer
  intro hnil
  rw [hnil] at hx
  cases hx

/-- **What the builder of a static route emits is recovered.** -/
theorem recovers_static [Pda] (programId : Pubkey) (accounts : Sdk.RouteAccounts)
    (amountIn minAmountOut : UInt64) (feeAsset : UInt8) (exactOut : Bool) (mint : Pubkey)
    {legs : List Leg} (hle : legs.length ≤ 4) (hsized : ∀ leg ∈ legs, WellSized leg) :
    Recovers view programId accounts
      ⟨tagRoute, amountIn, minAmountOut, feeAsset &&& 0x01, exactOut, mint, [], legs⟩
      (buildRouteInstructionEx programId accounts amountIn minAmountOut feeAsset exactOut
        mint legs) := by
  refine recovers_of_shape view (programMetas 4 legs []) feeAsset (Nat.zero_le _) hle hsized
    rfl ?_ ?_ ?_
  · intro leg hleg
    exact (exists_mem_programMetas 4 hleg).resolve_left List.not_mem_nil
  · simp [buildRouteInstructionEx, encodeHeader, encodeFeeAsset]
  · simp [buildRouteInstructionEx, leadingMetas]

/-- **What the builder of a dynamic route emits is recovered.** -/
theorem recovers_dynamic [Pda] {programId : Pubkey} {accounts : Sdk.RouteAccounts}
    {intermediate : Pubkey} {amountIn intermediateMinOut minAmountOut : UInt64}
    {mint : Pubkey} {first second : Leg} {ix : Instruction}
    (h : buildDynamicRouteInstruction programId accounts intermediate amountIn
      intermediateMinOut minAmountOut mint first second = .ok ix) :
    Recovers view programId accounts
      ⟨tagRouteDynamic, amountIn, minAmountOut, feeAssetToken, false, mint,
        [(intermediate, intermediateMinOut)], [first, second]⟩ ix := by
  obtain ⟨_, hcheck, h⟩ := bind_eq_ok.mp h
  have hok := checkDynamicRoute_ok hcheck
  rw [pure_eq_ok] at h
  refine recovers_of_shape view (.newReadonly first.programId false ::
      (if second.programId ≠ first.programId
        then [.newReadonly second.programId false] else []))
    feeAssetToken (by simp) (by simp) ?_ rfl ?_ ?_ ?_
  · simp only [List.forall_mem_cons]
    exact ⟨wellSized_of_checked hok.counts.1 hok.counts.2.1 hok.sizes.1,
      wellSized_of_checked (accounts_ne_nil hok.second) hok.counts.2.2 hok.sizes.2, by simp⟩
  · simp only [List.forall_mem_cons]
    refine ⟨⟨_, List.mem_cons_self .., rfl⟩, ?_, by simp⟩
    by_cases hsame : second.programId = first.programId
    · exact ⟨_, List.mem_cons_self .., hsame.symm⟩
    · exact ⟨.newReadonly second.programId false, by simp [hsame], rfl⟩
  · simp [← h, encodeHeader, encodeFeeAsset, feeAssetToken]
  · simp [← h, leadingMetas]

/-- **What the builder of a three-hop route emits is recovered.** -/
theorem recovers_threeHop [Pda] {programId : Pubkey} {accounts : Sdk.RouteAccounts}
    {firstIntermediate secondIntermediate : Pubkey}
    {amountIn firstMinOut secondMinOut minAmountOut : UInt64} {mint : Pubkey}
    {legs : List Leg} {ix : Instruction}
    (h : buildThreeHopRouteInstruction programId accounts firstIntermediate
      secondIntermediate amountIn firstMinOut secondMinOut minAmountOut mint legs true
      = .ok ix) :
    Recovers view programId accounts
      ⟨tagRouteDynamicThree, amountIn, minAmountOut, feeAssetToken, false, mint,
        [(firstIntermediate, firstMinOut), (secondIntermediate, secondMinOut)], legs⟩
      ix := by
  match legs, h with
  | [first, middle, last], h =>
    obtain ⟨_, hcheck, h⟩ := bind_eq_ok.mp h
    have hok := checkThreeHopRoute_ok hcheck
    rw [pure_eq_ok] at h
    refine recovers_of_shape view (programMetas 3 [first, middle, last] []) feeAssetToken
      (by simp) (by simp) ?_ rfl ?_ ?_ ?_
    · intro leg hleg
      obtain ⟨hpos, hle, -, hdata⟩ := hok.sizes leg hleg
      exact wellSized_of_checked hpos hle hdata
    · intro leg hleg
      exact (exists_mem_programMetas 3 hleg).resolve_left List.not_mem_nil
    · simp [← h, encodeHeader, encodeFeeAsset, feeAssetToken]
    · simp [← h, leadingMetas]

/-- **The wire format of a route round-trips**, for every builder. A static
route keeps the low bit of the fee's asset, which is all of it for the two
assets there are. -/
theorem route_round_trip [Pda] (programId : Pubkey) (accounts : Sdk.RouteAccounts)
    (amountIn minAmountOut : UInt64) (mint : Pubkey) :
    (∀ (feeAsset : UInt8) (exactOut : Bool) (legs : List Leg), legs.length ≤ 4 →
      (∀ leg ∈ legs, WellSized leg) →
      Recovers view programId accounts
        ⟨tagRoute, amountIn, minAmountOut, feeAsset &&& 0x01, exactOut, mint, [], legs⟩
        (buildRouteInstructionEx programId accounts amountIn minAmountOut feeAsset exactOut
          mint legs))
    ∧ (∀ (intermediate : Pubkey) (intermediateMinOut : UInt64) (first second : Leg)
        (ix : Instruction),
      buildDynamicRouteInstruction programId accounts intermediate amountIn
        intermediateMinOut minAmountOut mint first second = .ok ix →
      Recovers view programId accounts
        ⟨tagRouteDynamic, amountIn, minAmountOut, feeAssetToken, false, mint,
          [(intermediate, intermediateMinOut)], [first, second]⟩ ix)
    ∧ (∀ (firstIntermediate secondIntermediate : Pubkey) (firstMinOut secondMinOut : UInt64)
        (legs : List Leg) (ix : Instruction),
      buildThreeHopRouteInstruction programId accounts firstIntermediate
        secondIntermediate amountIn firstMinOut secondMinOut minAmountOut mint legs true
        = .ok ix →
      Recovers view programId accounts
        ⟨tagRouteDynamicThree, amountIn, minAmountOut, feeAssetToken, false, mint,
          [(firstIntermediate, firstMinOut), (secondIntermediate, secondMinOut)], legs⟩
        ix) := by
  refine ⟨?_, ?_, ?_⟩
  · intro feeAsset exactOut legs hle hsized
    exact recovers_static view programId accounts amountIn minAmountOut feeAsset exactOut
      mint hle hsized
  · intro intermediate intermediateMinOut first second ix h
    exact recovers_dynamic view h
  · intro firstIntermediate secondIntermediate firstMinOut secondMinOut legs ix h
    exact recovers_threeHop view h

/-- A CPMM swap of nothing, between two token accounts of the payer. -/
def sampleSwap (payer input output inputMint outputMint : Pubkey) : Leg where
  programId := raydiumCpmmProgram
  accounts := [.new payer true, .newReadonly (sampleKey 20) false,
    .newReadonly (sampleKey 21) false, .new (sampleKey 22) false, .new input false,
    .new output false, .new (sampleKey 23) false, .new (sampleKey 24) false,
    .newReadonly tokenProgram false, .newReadonly tokenProgram false,
    .newReadonly inputMint false, .newReadonly outputMint false]
  data := Sdk.cpmmSwapBaseIn ++ List.replicate 16 0

/-- The accounts of a route whose Token-2022 fee needs its mint. -/
def sampleAccounts : Sdk.RouteAccounts where
  payer := sampleKey 1
  feeDestination := sampleKey 3
  feeSource := sampleKey 4
  outputTokenAccount := sampleKey 5
  feeProgram := token2022Program
  feeMint := sampleKey 6

/-- The first swap of a sample route, out of the fee's source. -/
def sampleFirst : Leg :=
  sampleSwap (sampleKey 1) (sampleKey 4) (sampleKey 7) (sampleKey 14) (sampleKey 17)

/-- The swap between the two intermediate accounts. -/
def sampleMiddle : Leg :=
  sampleSwap (sampleKey 1) (sampleKey 7) (sampleKey 8) (sampleKey 17) (sampleKey 18)

/-- The last swap of a route of three, into the output. -/
def sampleLast : Leg :=
  sampleSwap (sampleKey 1) (sampleKey 8) (sampleKey 5) (sampleKey 18) (sampleKey 9)

/-- The last swap of a route of two. -/
def sampleSecond : Leg :=
  sampleSwap (sampleKey 1) (sampleKey 7) (sampleKey 5) (sampleKey 17) (sampleKey 9)

/-- **Routes the three builders accept.** Each repeats a program, and none
of their legs lists the mint of the fee. -/
theorem samples_round_trip :
    letI := samplePda
    let mint := sampleKey 9
    let legs := [sampleFirst, sampleMiddle, sampleLast]
    Recovers AccountView.ofMeta (sampleKey 0) sampleAccounts
      ⟨tagRoute, 10, 1, 1, true, mint, [], legs⟩
      (buildRouteInstructionEx (sampleKey 0) sampleAccounts 10 1 1 true mint legs)
    ∧ (∃ ix, buildDynamicRouteInstruction (sampleKey 0) sampleAccounts (sampleKey 7) 10 2 1
        mint sampleFirst sampleSecond = .ok ix
      ∧ Recovers AccountView.ofMeta (sampleKey 0) sampleAccounts
        ⟨tagRouteDynamic, 10, 1, 1, false, mint, [(sampleKey 7, 2)],
          [sampleFirst, sampleSecond]⟩ ix)
    ∧ (∃ ix, buildThreeHopRouteInstruction (sampleKey 0) sampleAccounts (sampleKey 7)
        (sampleKey 8) 10 2 3 1 mint legs true = .ok ix
      ∧ Recovers AccountView.ofMeta (sampleKey 0) sampleAccounts
        ⟨tagRouteDynamicThree, 10, 1, 1, false, mint, [(sampleKey 7, 2), (sampleKey 8, 3)],
          legs⟩ ix) := by
  let := samplePda
  obtain ⟨hstatic, hdynamic, hthree⟩ := route_round_trip AccountView.ofMeta (sampleKey 0)
    sampleAccounts 10 1 (sampleKey 9)
  refine ⟨hstatic 1 true _ (by decide) ?_, ⟨_, rfl, hdynamic _ _ _ _ _ rfl⟩,
    ⟨_, rfl, hthree _ _ _ _ _ _ rfl⟩⟩
  intro leg hleg
  simp only [List.mem_cons, List.not_mem_nil, or_false] at hleg
  rcases hleg with rfl | rfl | rfl <;> exact ⟨by decide, by decide, by decide⟩

end WireFormat
