import SolTradeRouter.Runtime

/-!
# The router's configuration account

Eighty bytes at the start of an account's data: a discriminator, the
authority, the fee recipient, the fee rate, the bump of the account's
address, and the pause switch. The program casts the data to the record
and back; `decode` and `store` are that cast.

`read` insists on the discriminator, `writeNew` on its absence, and both
writers keep the fee rate at or below ten percent.
-/

namespace Program

open Outcome Bytes

/-- PDA seed for the global router config. -/
def configSeed : List UInt8 := ascii "config"

/-- Max platform fee: 10% (1000 bps). -/
def maxFeeBps : UInt16 := 1000

/-- Config account magic / version tag. -/
def configDiscriminator : List UInt8 := ascii "ROUTCFG1"

/-- **On-chain router configuration.** -/
@[ext] structure RouterConfig where
  discriminator : List UInt8
  authority : Address
  feeRecipient : Address
  feeBps : UInt16
  bump : UInt8
  paused : UInt8
  padding : List UInt8
  discriminator_size : discriminator.length = 8
  padding_size : padding.length = 4

namespace RouterConfig

/-- The size of the record. -/
def len : ℕ := 80

/-- The record as it lies in memory. -/
def encode (c : RouterConfig) : List UInt8 :=
  c.discriminator ++ c.authority.bytes ++ c.feeRecipient.bytes ++ ofUInt16 c.feeBps
    ++ [c.bump, c.paused] ++ c.padding

/-- The record at the start of the data, when the data is long enough. -/
def decode (data : List UInt8) : Option RouterConfig :=
  if h : len ≤ data.length then
    some {
      discriminator := (data.drop 0).take 8
      authority := ⟨(data.drop 8).take 32, by
        rw [List.length_take, List.length_drop]; unfold len at h; omega⟩
      feeRecipient := ⟨(data.drop 40).take 32, by
        rw [List.length_take, List.length_drop]; unfold len at h; omega⟩
      feeBps := toUInt16 ((data.drop 72).take 2)
      bump := data.get ⟨74, by unfold len at h; omega⟩
      paused := data.get ⟨75, by unfold len at h; omega⟩
      padding := (data.drop 76).take 4
      discriminator_size := by
        rw [List.length_take, List.length_drop]; unfold len at h; omega
      padding_size := by
        rw [List.length_take, List.length_drop]; unfold len at h; omega }
  else none

/-- The data with the record written over its start. -/
def store (c : RouterConfig) (data : List UInt8) : List UInt8 :=
  c.encode ++ data.drop len

def isInitialized (c : RouterConfig) : Bool := c.discriminator = configDiscriminator

/-- The configuration in an account. -/
def read (l : Ledger) (account : AccountView) : Read RouterConfig := do
  let cfg ← okOrReject (decode (account.data l)) .invalidConfig
  rejectIf (!cfg.isInitialized) .notInitialized
  pure cfg

/-- The configuration that `initialize` writes. -/
def fresh (authority feeRecipient : Address) (feeBps : UInt16) (bump : UInt8) :
    RouterConfig where
  discriminator := configDiscriminator
  authority := authority
  feeRecipient := feeRecipient
  feeBps := feeBps
  bump := bump
  paused := 0
  padding := [0, 0, 0, 0]
  discriminator_size := by decide
  padding_size := rfl

/-- Write a configuration into an account that holds none. -/
def writeNew (account : AccountView) (authority feeRecipient : Address)
    (feeBps : UInt16) (bump : UInt8) : Exec Unit := do
  rejectIf (feeBps > maxFeeBps) .invalidFeeBps
  let l ← currentLedger
  let existing ← okOrReject (decode (account.data l)) .invalidConfig
  rejectIf existing.isInitialized .alreadyInitialized
  writeData account ((fresh authority feeRecipient feeBps bump).store (account.data l))

/-- The configuration with the given fields replaced. -/
def set (c : RouterConfig) (feeRecipient : Option Address) (feeBps : Option UInt16)
    (paused : Option Bool) : RouterConfig :=
  { c with
    feeRecipient := feeRecipient.getD c.feeRecipient
    feeBps := feeBps.getD c.feeBps
    paused := (paused.map (fun p => if p then 1 else 0)).getD c.paused }

/-- Change fields of the configuration in an account. -/
def update (account : AccountView) (feeRecipient : Option Address)
    (feeBps : Option UInt16) (paused : Option Bool) : Exec Unit := do
  rejectIf (feeBps.any (· > maxFeeBps)) .invalidFeeBps
  let l ← currentLedger
  let cfg ← okOrReject (decode (account.data l)) .invalidConfig
  rejectIf (!cfg.isInitialized) .notInitialized
  writeData account ((cfg.set feeRecipient feeBps paused).store (account.data l))

end RouterConfig

/-- Derive config PDA. -/
def configPda [Pda] (programId : Address) : Address × UInt8 :=
  Pda.find [configSeed] programId

namespace RouterConfig

/-! ## Encoding -/

@[simp] theorem length_encode (c : RouterConfig) : c.encode.length = len := by
  simp only [encode, List.length_append, c.discriminator_size, c.padding_size,
    Pubkey.length_bytes, length_ofUInt16, List.length_cons, List.length_nil]
  rfl

/-- The part of a list that a splitting marks out. -/
theorem take_drop_append {p ys post : List UInt8} {a k : ℕ} (ha : p.length = a)
    (hk : ys.length = k) : ((p ++ (ys ++ post)).drop a).take k = ys := by
  subst ha hk
  rw [List.drop_left, List.take_left]

/-- **What is stored is what is read back**, whatever the account held. -/
@[simp] theorem decode_store (c : RouterConfig) (data : List UInt8) :
    decode (c.store data) = some c := by
  have hlen : len ≤ (c.store data).length := by
    rw [store, List.length_append, length_encode]
    exact Nat.le_add_right _ _
  rw [decode, dif_pos hlen, Option.some.injEq]
  have hd := c.discriminator_size
  have hb : ∀ b : UInt16, (ofUInt16 b).length = 2 := length_ofUInt16
  ext1
  case discriminator =>
    simp only [store, encode, List.append_assoc]
    exact take_drop_append (p := []) rfl hd
  case authority =>
    ext1
    simp only [store, encode, List.append_assoc]
    exact take_drop_append hd c.authority.size
  case feeRecipient =>
    ext1
    simp only [store, encode, List.append_assoc]
    rw [← List.append_assoc]
    exact take_drop_append (by simp [hd]) c.feeRecipient.size
  case feeBps =>
    have h : ((c.store data).drop 72).take 2 = ofUInt16 c.feeBps := by
      simp only [store, encode, List.append_assoc]
      rw [← List.append_assoc, ← List.append_assoc]
      exact take_drop_append (by simp [hd]) (length_ofUInt16 _)
    show toUInt16 (((c.store data).drop 72).take 2) = c.feeBps
    rw [h, toUInt16_ofUInt16]
  case bump =>
    have h : (c.store data)[74]? = some c.bump := by
      simp [store, encode, List.getElem?_append, hd]
    exact Option.some.inj ((List.getElem?_eq_getElem _).symm.trans h)
  case paused =>
    have h : (c.store data)[75]? = some c.paused := by
      simp [store, encode, List.getElem?_append, hd]
    exact Option.some.inj ((List.getElem?_eq_getElem _).symm.trans h)
  case padding =>
    simp only [store, encode, List.append_assoc]
    rw [← List.append_assoc, ← List.append_assoc, ← List.append_assoc, ← List.append_assoc]
    exact take_drop_append (by simp [hd]) c.padding_size

/-! ## Reading and writing -/

/-- A pause switch that is set is zero or one. -/
theorem set_paused (c : RouterConfig) (feeRecipient : Option Address)
    (feeBps : Option UInt16) (paused : Bool) :
    (c.set feeRecipient feeBps (some paused)).paused = 0
      ∨ (c.set feeRecipient feeBps (some paused)).paused = 1 := by
  cases paused
  · exact .inl rfl
  · exact .inr rfl

/-- Data that decodes is as long as the record. -/
theorem len_le_of_decode {data : List UInt8} {c : RouterConfig} (h : decode data = some c) :
    len ≤ data.length := by
  by_contra hc
  rw [decode, dif_neg hc] at h
  cases h

theorem read_eq_ok {l : Ledger} {account : AccountView} {c : RouterConfig} :
    read l account = .ok c ↔
      decode (account.data l) = some c ∧ c.isInitialized = true := by
  simp only [read, bind_eq_ok, okOr_eq_ok, failIf_eq_ok, pure_eq_ok, Bool.not_eq_true',
    Bool.not_eq_false]
  constructor
  · rintro ⟨cfg, hdecode, _, hinit, rfl⟩
    exact ⟨hdecode, hinit⟩
  · rintro ⟨hdecode, hinit⟩
    exact ⟨c, hdecode, (), hinit, rfl⟩

/-- `writeNew` on an account without a configuration stores the fresh one. -/
theorem writeNew_eq_ok {account : AccountView} {authority feeRecipient : Address}
    {feeBps : UInt16} {bump : UInt8} {m m' : Machine} {u : Unit} :
    writeNew account authority feeRecipient feeBps bump m = .ok u m' ↔
      feeBps ≤ maxFeeBps
      ∧ (∃ existing, decode (account.data m.ledger) = some existing
        ∧ existing.isInitialized = false)
      ∧ m' = ⟨setData m.ledger account.address
          ((fresh authority feeRecipient feeBps bump).store (account.data m.ledger)),
          m.trace⟩ := by
  simp only [writeNew, run_lift_bind_eq_ok, currentLedger_bind, writeData_eq_ok,
    failIf_eq_ok, okOr_eq_ok, Bool.not_eq_true, UInt16.not_lt, gt_iff_lt]
  constructor
  · rintro ⟨_, hbps, existing, hdecode, _, hinit, rfl⟩
    exact ⟨hbps, ⟨existing, hdecode, hinit⟩, rfl⟩
  · rintro ⟨hbps, ⟨existing, hdecode, hinit⟩, rfl⟩
    exact ⟨(), hbps, existing, hdecode, (), hinit, rfl⟩

theorem writeNew_ok {account : AccountView} {authority feeRecipient : Address}
    {feeBps : UInt16} {bump : UInt8} {m : Machine} {existing : RouterConfig}
    (hbps : feeBps ≤ maxFeeBps) (hdecode : decode (account.data m.ledger) = some existing)
    (hinit : existing.isInitialized = false) :
    ∃ m', writeNew account authority feeRecipient feeBps bump m = .ok () m' :=
  ⟨_, writeNew_eq_ok.mpr ⟨hbps, ⟨existing, hdecode, hinit⟩, rfl⟩⟩

theorem update_eq_ok {account : AccountView} {feeRecipient : Option Address}
    {feeBps : UInt16} {paused : Bool} {m m' : Machine} {u : Unit} :
    update account feeRecipient (some feeBps) (some paused) m = .ok u m' ↔
      feeBps ≤ maxFeeBps
      ∧ ∃ cfg, decode (account.data m.ledger) = some cfg
        ∧ cfg.isInitialized = true
        ∧ m' = ⟨setData m.ledger account.address
          ((cfg.set feeRecipient (some feeBps) (some paused)).store
            (account.data m.ledger)), m.trace⟩ := by
  simp only [update, run_lift_bind_eq_ok, currentLedger_bind, writeData_eq_ok,
    failIf_eq_ok, okOr_eq_ok, Option.any_some, decide_eq_true_eq, UInt16.not_lt, gt_iff_lt,
    Bool.not_eq_true', Bool.not_eq_false]
  constructor
  · rintro ⟨_, hbps, cfg, hdecode, _, hinit, rfl⟩
    exact ⟨hbps, cfg, hdecode, hinit, rfl⟩
  · rintro ⟨hbps, cfg, hdecode, hinit, rfl⟩
    exact ⟨(), hbps, cfg, hdecode, (), hinit, rfl⟩

end RouterConfig

end Program
