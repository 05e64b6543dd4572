import SolTradeRouter.Ata
import SolTradeRouter.Ledger
import SolTradeRouter.Tlv

/-!
# Mints without fees and hooks

PumpFun quotes do not implement the extensions of a Token-2022 mint that take
part of a transfer or call back. Before a quote is made, the mint's account is
read: it must be an initialized mint of one of the token programs, and its
extensions must be of types that change no transfer, or a transfer hook that
names no program.

The reader walks over the entries by position. It returns for exactly the
accounts that hold such a stream, and neither panics nor runs on, whatever the
bytes are. An account's data is shorter than the address space, and no
position overflows.
-/

namespace Sdk

open Outcome Bytes

/-- One extension: its type, its length and the position behind it. -/
def mintExtension (data : List UInt8) (offset : ℕ) (kind : UInt16) (len stop : ℕ) :
    Result Unit :=
  if kind = 14 then do
    -- TransferHook = optional authority (32) + optional program (32).
    bailIf (len ≠ 64) "malformed Token-2022 TransferHook extension"
    let program ← slice data (offset + 36) stop
    bailIf (program.any (· ≠ 0) = true)
      "active PumpFun transfer hook requires unsupported extra accounts"
  else
    bailIf (¬ kind ∈ [3, 10, 18, 19, 20, 21, 22, 23])
      s!"PumpFun mint extension {kind} requires unsupported handling"

/-- The loop over the extensions, from a position on. -/
def mintExtensions (data : List UInt8) : ℕ → ℕ → Result Unit
  | 0, _ => panicked
  | fuel + 1, offset =>
    if offset + 4 ≤ data.length then do
      let kind ← slice data offset (offset + 2)
      let len ← slice data (offset + 2) (offset + 4)
      if toUInt16 kind = 0 then pure ()
      else do
        let stop ← okOr ((some (offset + (4 + (toUInt16 len).toNat))).filter (· ≤ data.length))
          "malformed Token-2022 mint extensions"
        mintExtension data offset (toUInt16 kind) (toUInt16 len).toNat stop
        mintExtensions data fuel stop
    else pure ()

/-- **The token program of a mint** that quotes can handle. -/
def mintProgram (account : Account) : Result Pubkey := do
  bailIf (account.owner ≠ tokenProgram ∧ account.owner ≠ token2022Program)
    "mint has an unsupported owner"
  bailIf (account.data.length < 82 ∨ account.data[45]? ≠ some 1)
    "invalid or uninitialized mint"
  if account.owner = token2022Program ∧ account.data.length > 82 then do
    bailIf (account.data[165]? ≠ some 1) "invalid Token-2022 mint account type"
    mintExtensions account.data account.data.length 166
    pure account.owner
  else pure account.owner

/-! ## The grammar -/

/-- **The extensions that change no transfer**: the allowed types, and a hook
without a program. -/
def InertExtension (kind : UInt16) (value : List UInt8) : Prop :=
  kind ∈ [3, 10, 18, 19, 20, 21, 22, 23]
    ∨ kind = 14 ∧ value.length = 64 ∧ ∀ b ∈ value.drop 32, b = 0

/-- **The accounts of mints without fees and hooks.** -/
structure InertMint (account : Account) : Prop where
  owner : account.owner = tokenProgram ∨ account.owner = token2022Program
  length : 82 ≤ account.data.length
  initialized : account.data[45]? = some 1
  extensions : account.owner = token2022Program → 82 < account.data.length →
    account.data[165]? = some 1 ∧ Tlv.Stream InertExtension (account.data.drop 166)

/-- A Token-2022 mint carries an extension. -/
def CarriesExtension (account : Account) (kind : UInt16) (value : List UInt8) : Prop :=
  account.owner = token2022Program ∧ 82 < account.data.length
    ∧ Tlv.Carries kind value (account.data.drop 166)

/-! ## The loop -/

section Loop

variable {data : List UInt8} {offset fuel : ℕ}

theorem slice_kind (h : offset + 4 ≤ data.length) :
    (slice data offset (offset + 2) : Result (List UInt8)) = .ok ((data.drop offset).take 2) := by
  rw [slice_eq_ok, range?_of_le (by omega) (by omega), Nat.add_sub_cancel_left]

theorem slice_len (h : offset + 4 ≤ data.length) :
    (slice data (offset + 2) (offset + 4) : Result (List UInt8))
      = .ok (((data.drop offset).drop 2).take 2) := by
  rw [slice_eq_ok, range?_of_le (by omega) (by omega), List.drop_drop,
    show offset + 4 - (offset + 2) = 2 by omega]

/-- **The loop, by the bytes that are left**: it stops at a header of type
zero, and otherwise needs the entry to fit and to be admitted. -/
theorem mintExtensions_eq (h : offset + 4 ≤ data.length) :
    mintExtensions data (fuel + 1) offset =
      if Tlv.kindOf (data.drop offset) = 0 then .ok ()
      else if 4 + Tlv.lenOf (data.drop offset) ≤ (data.drop offset).length then do
        mintExtension data offset (Tlv.kindOf (data.drop offset)) (Tlv.lenOf (data.drop offset))
          (offset + (4 + Tlv.lenOf (data.drop offset)))
        mintExtensions data fuel (offset + (4 + Tlv.lenOf (data.drop offset)))
      else fail "malformed Token-2022 mint extensions" := by
  have hlength : (data.drop offset).length = data.length - offset := List.length_drop
  rw [mintExtensions, if_pos h, slice_kind h, ok_bind, slice_len h, ok_bind,
    show toUInt16 ((data.drop offset).take 2) = Tlv.kindOf (data.drop offset) from rfl,
    show (toUInt16 (((data.drop offset).drop 2).take 2)).toNat = Tlv.lenOf (data.drop offset)
      from rfl]
  split
  · rfl
  · by_cases hfits : 4 + Tlv.lenOf (data.drop offset) ≤ (data.drop offset).length
    · have hstop : (some (offset + (4 + Tlv.lenOf (data.drop offset)))).filter (· ≤ data.length)
          = some (offset + (4 + Tlv.lenOf (data.drop offset))) := by
        rw [Option.filter_some, if_pos (decide_eq_true (by omega))]
      rw [if_pos hfits, hstop, okOr_some, ok_bind]
    · have hstop : (some (offset + (4 + Tlv.lenOf (data.drop offset)))).filter (· ≤ data.length)
          = none := by
        rw [Option.filter_some, if_neg]
        rw [decide_eq_true_eq]
        omega
      rw [if_neg hfits, hstop]
      rfl

/-- The program of a hook is the second half of its value. -/
theorem slice_program {len : ℕ} (hlen : len = 64)
    (h : 4 + Tlv.lenOf (data.drop offset) ≤ (data.drop offset).length)
    (hread : Tlv.lenOf (data.drop offset) = len) :
    (slice data (offset + 36) (offset + (4 + len)) : Result (List UInt8))
      = .ok ((Tlv.valueOf (data.drop offset)).drop 32) := by
  rw [List.length_drop] at h
  rw [slice_eq_ok, range?_of_le (by omega) (by omega), Tlv.valueOf, hread, hlen, List.drop_take,
    List.drop_drop, List.drop_drop, show offset + (4 + 64) - (offset + 36) = 64 - 32 by omega]

/-- **An extension is admitted exactly when it is inert.** -/
theorem mintExtension_eq_ok {kind : UInt16}
    (h : 4 + Tlv.lenOf (data.drop offset) ≤ (data.drop offset).length) :
    mintExtension data offset kind (Tlv.lenOf (data.drop offset))
        (offset + (4 + Tlv.lenOf (data.drop offset))) = .ok ()
      ↔ InertExtension kind (Tlv.valueOf (data.drop offset)) := by
  unfold mintExtension InertExtension
  rw [Tlv.length_valueOf h]
  split
  · rename_i hkind
    have hother : ¬ kind ∈ [3, 10, 18, 19, 20, 21, 22, 23] := by
      rw [hkind]
      decide
    simp only [bind_eq_ok, failIf_eq_ok, not_not]
    constructor
    · rintro ⟨_, hlen, program, hprogram, hinert⟩
      rw [slice_program hlen h rfl, Except.ok.injEq] at hprogram
      refine .inr ⟨hkind, hlen, ?_⟩
      rw [hprogram]
      simpa using hinert
    · rintro (hmem | ⟨-, hlen, hinert⟩)
      · exact absurd hmem hother
      · exact ⟨(), hlen, _, slice_program hlen h rfl, by simpa using hinert⟩
  · rename_i hkind
    rw [failIf_eq_ok, not_not]
    exact ⟨.inl, fun hinert => hinert.resolve_right fun hhook => hkind hhook.1⟩

theorem calm_mintExtension {kind : UInt16}
    (h : 4 + Tlv.lenOf (data.drop offset) ≤ (data.drop offset).length) :
    Calm (mintExtension data offset kind (Tlv.lenOf (data.drop offset))
      (offset + (4 + Tlv.lenOf (data.drop offset)))) := by
  unfold mintExtension
  split
  · refine calm_bind calm_failIf fun _ hlen => ?_
    rw [slice_program (not_not.mp (failIf_eq_ok.mp hlen)) h rfl, ok_bind]
    exact calm_failIf
  · exact calm_failIf

/-- **The loop reads the grammar**: from any position, with fuel for the bytes
behind it, it admits exactly the streams and never panics. The induction is
on the fuel; an entry takes at least its header. -/
theorem mintExtensions_reads (hoffset : offset ≤ data.length)
    (hfuel : data.length - offset < fuel) :
    Calm (mintExtensions data fuel offset)
      ∧ (mintExtensions data fuel offset = .ok ()
        ↔ Tlv.Stream InertExtension (data.drop offset)) := by
  induction fuel generalizing offset with
  | zero => exact absurd hfuel (Nat.not_lt_zero _)
  | succ fuel ih =>
    have hlength : (data.drop offset).length = data.length - offset := List.length_drop
    by_cases hheader : offset + 4 ≤ data.length
    · rw [mintExtensions_eq hheader, Tlv.stream_iff (by omega)]
      by_cases hkind : Tlv.kindOf (data.drop offset) = 0
      · rw [if_pos hkind]
        exact ⟨calm_ok, iff_of_true rfl (.inl hkind)⟩
      · rw [if_neg hkind]
        by_cases hfits : 4 + Tlv.lenOf (data.drop offset) ≤ (data.drop offset).length
        · rw [if_pos hfits]
          have hstop : offset + (4 + Tlv.lenOf (data.drop offset)) ≤ data.length := by omega
          obtain ⟨hcalm, hiff⟩ := ih hstop (by omega)
          have hrest : data.drop (offset + (4 + Tlv.lenOf (data.drop offset)))
              = Tlv.restOf (data.drop offset) := by
            rw [Tlv.restOf, List.drop_drop]
          rw [hrest] at hiff
          refine ⟨calm_bind (calm_mintExtension hfits) fun _ _ => hcalm, ?_⟩
          simp only [bind_eq_ok, hiff]
          constructor
          · rintro ⟨_, hinert, hstream⟩
            exact .inr ⟨hkind, hfits, (mintExtension_eq_ok hfits).mp hinert, hstream⟩
          · rintro (hzero | ⟨-, -, hinert, hstream⟩)
            · exact absurd hzero hkind
            · exact ⟨(), (mintExtension_eq_ok hfits).mpr hinert, hstream⟩
        · rw [if_neg hfits]
          refine ⟨calm_fail, iff_of_false (by simp) ?_⟩
          rintro (hzero | ⟨-, hfits', -⟩)
          · exact hkind hzero
          · exact hfits hfits'
    · rw [mintExtensions, if_neg hheader]
      exact ⟨calm_ok, iff_of_true rfl (.trailing (by omega))⟩

end Loop

/-! ## Mints -/

/-- An inert extension is no transfer fee, and no hook with a program. -/
theorem InertExtension.harmless {kind : UInt16} {value : List UInt8}
    (h : InertExtension kind value) :
    kind ≠ 1 ∧ (kind = 14 → value.length = 64 ∧ ∀ b ∈ value.drop 32, b = 0) := by
  rcases h with hmem | ⟨hhook, hlen, hzero⟩
  · refine ⟨fun hfee => ?_, fun hhook => ?_⟩
    · rw [hfee] at hmem
      exact absurd hmem (by decide)
    · rw [hhook] at hmem
      exact absurd hmem (by decide)
  · exact ⟨by rw [hhook]; decide, fun _ => ⟨hlen, hzero⟩⟩

/-- The account type of a Token-2022 mint stands in front of its
extensions. -/
theorem extensions_reads {account : Account} (htype : account.data[165]? = some 1) :
    Calm (mintExtensions account.data account.data.length 166)
      ∧ (mintExtensions account.data account.data.length 166 = .ok ()
        ↔ Tlv.Stream InertExtension (account.data.drop 166)) := by
  obtain ⟨hlt, -⟩ := List.getElem?_eq_some_iff.mp htype
  exact mintExtensions_reads hlt (by omega)

theorem calm_mintProgram (account : Account) : Calm (mintProgram account) := by
  unfold mintProgram
  refine calm_bind calm_failIf fun _ _ => calm_bind calm_failIf fun _ _ => calm_ite ?_ calm_ok
  refine calm_bind calm_failIf fun _ htype => ?_
  exact calm_bind (extensions_reads (not_not.mp (failIf_eq_ok.mp htype))).1 fun _ _ => calm_ok

theorem mintProgram_eq_ok {account : Account} {program : Pubkey} :
    mintProgram account = .ok program ↔ InertMint account ∧ program = account.owner := by
  unfold mintProgram
  simp only [bind_eq_ok, failIf_eq_ok, not_and_or, not_or, not_not, Nat.not_lt]
  constructor
  · rintro ⟨_, howner, _, ⟨hlength, hinit⟩, h⟩
    split at h
    · obtain ⟨_, htype, _, hstream, rfl⟩ := by
        simpa only [bind_eq_ok, failIf_eq_ok, not_not, pure_eq_ok] using h
      exact ⟨⟨howner, hlength, hinit, fun _ _ =>
        ⟨htype, (extensions_reads htype).2.mp hstream⟩⟩, rfl⟩
    · rename_i hbase
      cases pure_eq_ok.mp h
      exact ⟨⟨howner, hlength, hinit, fun h2022 hlong => absurd ⟨h2022, hlong⟩ hbase⟩, rfl⟩
  · rintro ⟨hmint, rfl⟩
    refine ⟨(), hmint.owner, (), ⟨hmint.length, hmint.initialized⟩, ?_⟩
    split
    · rename_i h
      obtain ⟨htype, hstream⟩ := hmint.extensions h.1 h.2
      simp only [bind_eq_ok, failIf_eq_ok, not_not, pure_eq_ok]
      exact ⟨(), htype, (), (extensions_reads htype).2.mpr hstream, trivial⟩
    · rfl

/-- **Mint acceptance is the grammar.** The reader never panics, accepts
exactly the inert mints and returns their owner; so no accepted mint carries a
transfer fee, or a hook with a program. -/
theorem mintProgram_accepts_iff (account : Account) :
    Calm (mintProgram account)
      ∧ (∀ program, mintProgram account = .ok program
        ↔ InertMint account ∧ program = account.owner)
      ∧ ∀ program, mintProgram account = .ok program → ∀ kind value,
        CarriesExtension account kind value →
        kind ≠ 1 ∧ (kind = 14 → value.length = 64 ∧ ∀ b ∈ value.drop 32, b = 0) := by
  refine ⟨calm_mintProgram account, fun program => mintProgram_eq_ok,
    fun program h kind value => ?_⟩
  rintro ⟨howner, hlong, hcarries⟩
  have hstream := ((mintProgram_eq_ok.mp h).1.extensions howner hlong).2
  exact (hstream.allowed hcarries).harmless

/-- A Token-2022 mint with extensions. -/
def sampleMint (extensions : List UInt8) : Account where
  lamports := 0
  owner := token2022Program
  data := List.replicate 45 0 ++ [1] ++ List.replicate 119 0 ++ [1] ++ extensions

/-- A hook that names no program is accepted. -/
theorem sampleMint_accepted :
    mintProgram (sampleMint (Tlv.entry 14 (List.replicate 64 0))) = .ok token2022Program
      ∧ ∀ b ∈ (List.replicate 64 (0 : UInt8)).drop 32, b = 0 := by
  have haccepted : mintProgram (sampleMint (Tlv.entry 14 (List.replicate 64 0)))
      = .ok token2022Program := by decide +kernel
  have hcarries : CarriesExtension (sampleMint (Tlv.entry 14 (List.replicate 64 0))) 14
      (List.replicate 64 0) := by
    have hbytes : (sampleMint (Tlv.entry 14 (List.replicate 64 0))).data.drop 166
        = Tlv.entry 14 (List.replicate 64 0) ++ [] := by decide +kernel
    refine ⟨rfl, by decide +kernel, ?_⟩
    rw [hbytes]
    exact .head [] (by decide) (by decide)
  have hhook := ((mintProgram_accepts_iff _).2.2 _ haccepted 14 _ hcarries).2 rfl
  exact ⟨haccepted, hhook.2⟩

/-- A fee behind the hook is found. -/
example : (mintProgram (sampleMint (Tlv.entry 14 (List.replicate 64 0)
    ++ Tlv.entry 1 (List.replicate 108 0)))).toBool = false := by decide +kernel

end Sdk
