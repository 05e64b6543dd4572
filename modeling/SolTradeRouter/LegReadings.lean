import SolTradeRouter.RouteChaining
import SolTradeRouter.WireFormat

/-!
# What the parser reads when a count does not fit

The builder of a static route writes the number of its legs and the number
of each leg's accounts as one byte, the length of each leg's data as two,
and checks none of them. A count that does not fit is cut to its low bits,
and the parser starts from those. The static tag does not require that the
data is used up, so nothing stops it from accepting what the low bits
describe.

What it accepts is said here without the parser. A *reading* of the legs is
a list of legs within the limits, as many as the byte says, whose encoding
begins the encoding of the given legs and whose accounts begin the accounts
that are passed. The parser accepts exactly when there is a reading, and
hands out its legs. Encodings of legs within the limits are prefix-free, so
when all counts fit there is no reading but the legs themselves; when one
of them does not, no reading is the legs.
-/

namespace WireFormat

open Outcome Bytes Program Sdk

variable {α : Type} (view : AccountMeta → α)

/-- **The parser of a static route**: the legs that the program makes of the
data and the accounts of an instruction. -/
def parseRoute (accounts : List α) (data : List UInt8) : Read (List (ParsedLeg α)) := do
  let header ← readHeader data 0
  checkHeader header 0
  let a ← splitAccounts accounts 0
  let parsed ← parseLegs data a.remaining header.numLegs ⟨routeHeaderLen, 0⟩
  pure parsed.1

/-- **A route that returned called the legs its parser hands out**, each with
its own accounts and its own data. -/
theorem parseRoute_of_run [Pda] {rt : Runtime} {programId : Address}
    {accounts : List AccountView} {data : List UInt8} {m m' : Machine}
    (r : RouteRun rt programId accounts data 0 m m') :
    ∃ legs events, parseRoute accounts data = .ok legs
      ∧ m'.trace = r.charged.trace ++ events
      ∧ events.map CpiEvent.call
        = legs.map fun leg => ⟨leg.programId, leg.accounts.map AccountView.toMeta, leg.data⟩ := by
  obtain ⟨path⟩ := runLegs_path r.legs
  refine ⟨path.legs, path.events, ?_, path.trace_eq, ?_⟩
  · unfold parseRoute
    rw [r.header_eq, ok_bind, r.header_ok, ok_bind, r.accounts_eq, ok_bind]
    exact bind_eq_ok.mpr ⟨_, path.parsed, rfl⟩
  · refine List.ext_getElem? fun k => ?_
    rw [List.getElem?_map, List.getElem?_map]
    rcases Nat.lt_or_ge k r.header.numLegs with hk | hk
    · obtain ⟨leg, hleg, hevent⟩ := path.run k hk
      rw [hleg, hevent, Option.map_some, Option.map_some, Option.some.injEq]
      have hparse := parseLeg_eq_ok.mp leg.parsed
      have hmetas := (buildMetas_eq hparse.length_accounts hparse.count_le).symm.trans
        leg.metas_eq
      have hdata := leg.data_eq
      rw [legInvokeData_eq (numLegs_pos r.header_ok)] at hdata
      simp only [RouteFrame.threeHop, RouteFrame.dynamic, OfNat.zero_ne_ofNat, decide_false,
        Bool.false_eq_true, false_and, if_false, ne_eq, not_true_eq_false] at hdata
      rw [LegRun.event, ← Except.ok.inj hmetas, ← Except.ok.inj hdata]
    · rw [List.getElem?_eq_none (by rw [path.length_events]; exact hk),
        List.getElem?_eq_none (by rw [path.length_legs]; exact hk)]
      rfl

/-! ## Readings -/

/-- **The counts of a list of legs fit their fields.** -/
structure CountsFit (legs : List Leg) : Prop where
  legs_lt : legs.length < 2 ^ 8
  accounts_lt : ∀ leg ∈ legs, leg.accounts.length < 2 ^ 8
  data_lt : ∀ leg ∈ legs, leg.data.length < 2 ^ 16

/-- **A reading of a list of legs**: one to four legs within the limits, as many
as the low byte of the list's length says, that the encoding of the list and
the accounts that are passed both begin with. -/
structure Reading (legs : List Leg) (passed : List AccountMeta) (read : List Leg) :
    Prop where
  count : read.length = legs.length % 2 ^ 8
  pos : 1 ≤ read.length
  le : read.length ≤ maxLegs
  sized : ∀ leg ∈ read, WellSized leg
  bytes : read.flatMap encodeLeg <+: legs.flatMap encodeLeg
  accounts : read.flatMap Leg.accounts <+: passed

/-- A slice of a list is what the list starts with from there. -/
theorem drop_of_range? {β : Type} {xs ys : List β} {a b : ℕ} (h : range? xs a b = some ys) :
    xs.drop a = ys ++ xs.drop b := by
  obtain ⟨pre, post, rfl, rfl, rfl⟩ := range?_eq_some_iff.mp h
  rw [List.append_assoc, List.drop_left, ← List.append_assoc, ← List.length_append,
    List.drop_left]

/-- **A parsed leg is the front of what is left**, of the data and of the
accounts. -/
theorem exists_leg_of_parse {data : List UInt8} {passed : List AccountMeta}
    {pos pos' : LegCursor} {parsed : ParsedLeg α}
    (h : LegParse data (passed.map view) pos parsed pos') :
    ∃ leg, WellSized leg ∧ parsed = recoveredLeg view leg
      ∧ data.drop pos.cursor = encodeLeg leg ++ data.drop pos'.cursor
      ∧ passed.drop pos.remainingOffset
        = leg.accounts ++ passed.drop pos'.remainingOffset := by
  have hstop : pos.remainingOffset + parsed.numAccounts ≤ passed.length := by
    obtain ⟨pre, post, hsplit, hpre, hlen⟩ := range?_eq_some_iff.mp h.accounts
    have hmap := congrArg List.length hsplit
    rw [List.length_map, List.length_append, List.length_append] at hmap
    omega
  have hrange := range?_of_le (Nat.le_add_right pos.remainingOffset parsed.numAccounts) hstop
  set metas := (passed.drop pos.remainingOffset).take
    (pos.remainingOffset + parsed.numAccounts - pos.remainingOffset) with hmetas
  have hlen : metas.length = parsed.numAccounts := by
    rw [length_of_range? hrange]
    omega
  have haccounts : parsed.accounts = metas.map view := by
    have hview := h.accounts
    rw [range?_of_le (Nat.le_add_right _ _) (by rw [List.length_map]; exact hstop)] at hview
    rw [← Option.some.inj hview, hmetas, List.map_take, List.map_drop]
  have hcount : data.drop (pos.cursor + 32)
      = UInt8.ofNat parsed.numAccounts :: data.drop (pos.cursor + 33) := by
    obtain ⟨hlt, hget⟩ := List.getElem?_eq_some_iff.mp h.count
    rw [List.drop_eq_getElem_cons hlt, hget]
  refine ⟨⟨parsed.programId, metas, parsed.data⟩, ⟨?_, ?_, h.size_lt⟩, ?_, ?_, ?_⟩
  · show 0 < metas.length
    rw [hlen]
    exact h.count_pos
  · show metas.length ≤ Program.maxLegAccounts
    rw [hlen]
    exact h.count_le
  · cases parsed
    rw [recoveredLeg, hlen, ← haccounts]
  · rw [drop_of_range? h.program, hcount, drop_of_range? h.size, drop_of_range? h.payload,
      h.cursor_eq, encodeLeg, hlen]
    simp only [List.append_assoc, List.cons_append, List.nil_append]
  · rw [h.remainingOffset_eq]
    exact drop_of_range? hrange

/-- **Parsed legs are a reading of what is left**: by induction on their
number, each taken off the front. -/
theorem exists_legs_of_parse {data : List UInt8} {passed : List AccountMeta} {n : ℕ}
    {pos pos' : LegCursor} {parsed : List (ParsedLeg α)}
    (h : parseLegs data (passed.map view) n pos = .ok (parsed, pos')) :
    ∃ read : List Leg, read.length = n ∧ (∀ leg ∈ read, WellSized leg)
      ∧ parsed = read.map (recoveredLeg view)
      ∧ read.flatMap encodeLeg <+: data.drop pos.cursor
      ∧ read.flatMap Leg.accounts <+: passed.drop pos.remainingOffset := by
  induction n generalizing pos parsed with
  | zero =>
    rw [parseLegs, pure_eq_ok, Prod.mk.injEq] at h
    exact ⟨[], rfl, List.forall_mem_nil _, h.1.symm, List.nil_prefix, List.nil_prefix⟩
  | succ n ih =>
    rw [parseLegs] at h
    obtain ⟨⟨first, pos₁⟩, hfirst, h⟩ := bind_eq_ok.mp h
    obtain ⟨⟨rest, pos₂⟩, hrest, h⟩ := bind_eq_ok.mp h
    rw [pure_eq_ok, Prod.mk.injEq] at h
    obtain ⟨rfl, rfl⟩ := h
    obtain ⟨leg, hsized, hleg, hdata, haccounts⟩ :=
      exists_leg_of_parse view (parseLeg_eq_ok.mp hfirst)
    obtain ⟨read, hlen, hall, hread, hbytes, hmetas⟩ := ih hrest
    refine ⟨leg :: read, by rw [List.length_cons, hlen], ?_, ?_, ?_, ?_⟩
    · exact List.forall_mem_cons.mpr ⟨hsized, hall⟩
    · rw [hleg, hread, List.map_cons]
    · rw [List.flatMap_cons, hdata]
      exact (List.prefix_append_right_inj _).mpr hbytes
    · rw [List.flatMap_cons, haccounts]
      exact (List.prefix_append_right_inj _).mpr hmetas

/-! ## The parser -/

section

variable [Pda] (programId : Pubkey) (accounts : Sdk.RouteAccounts)
  (amountIn minAmountOut : UInt64) (feeAsset : UInt8) (exactOut : Bool) (mint : Pubkey)

/-- The accounts of the legs come right after the fixed ones. -/
theorem exists_accounts_eq (legs : List Leg) :
    ∃ rest, (buildRouteInstructionEx programId accounts amountIn minAmountOut feeAsset
      exactOut mint legs).accounts
        = leadingMetas programId accounts [] ++ (legs.flatMap Leg.accounts ++ rest) := by
  obtain ⟨post, hpost⟩ := exists_appendFeeMint (leadingMetas programId accounts [])
    (legs.flatMap Leg.accounts ++ programMetas 4 legs []) accounts
  refine ⟨programMetas 4 legs [] ++ post, ?_⟩
  rw [← List.append_assoc (legs.flatMap Leg.accounts), ← hpost]
  simp [buildRouteInstructionEx, leadingMetas]

theorem exists_accounts_drop (legs : List Leg) :
    ∃ rest, (buildRouteInstructionEx programId accounts amountIn minAmountOut feeAsset
      exactOut mint legs).accounts.drop 6 = legs.flatMap Leg.accounts ++ rest := by
  obtain ⟨rest, hrest⟩ := exists_accounts_eq programId accounts amountIn minAmountOut feeAsset
    exactOut mint legs
  exact ⟨rest, by rw [hrest]; rfl⟩

/-- The header bytes of a built static route. -/
def staticHeader (legs : List Leg) : List UInt8 :=
  encodeHeader amountIn minAmountOut (encodeFeeAsset feeAsset exactOut)
    (UInt8.ofNat legs.length) mint []

/-- The parser of a built route reads its header and names its accounts; what
is left to it is the legs. -/
theorem parseRoute_built (legs : List Leg) :
    let ix := buildRouteInstructionEx programId accounts amountIn minAmountOut feeAsset
      exactOut mint legs
    parseRoute (ix.accounts.map view) ix.data.tail = (do
      checkHeader (recoveredHeader amountIn minAmountOut (encodeFeeAsset feeAsset exactOut)
        (UInt8.ofNat legs.length) mint []) 0
      let parsed ← parseLegs (staticHeader amountIn minAmountOut feeAsset exactOut mint legs
          ++ legs.flatMap encodeLeg) ((ix.accounts.drop 6).map view) (legs.length % 2 ^ 8)
        ⟨routeHeaderLen, 0⟩
      pure parsed.1) := by
  intro ix
  have hdata : ix.data.tail = staticHeader amountIn minAmountOut feeAsset exactOut mint legs
      ++ legs.flatMap encodeLeg := by
    simp [ix, buildRouteInstructionEx, staticHeader, encodeHeader, encodeFeeAsset]
  have hcount : (UInt8.ofNat legs.length).toNat = legs.length % 2 ^ 8 := UInt8.toNat_ofNat'
  obtain ⟨rest, hix⟩ : ∃ rest, ix.accounts
      = leadingMetas programId accounts [] ++ (legs.flatMap Leg.accounts ++ rest) :=
    exists_accounts_eq programId accounts amountIn minAmountOut feeAsset exactOut mint legs
  have hread : readHeader ix.data.tail 0 = .ok (recoveredHeader amountIn minAmountOut
      (encodeFeeAsset feeAsset exactOut) (UInt8.ofNat legs.length) mint []) := by
    rw [hdata]
    exact readHeader_encode _ _ _ _ _ (by simp : ([] : List UInt64).length ≤ 2) _
  have hsplit : splitAccounts (ix.accounts.map view) 0
      = .ok (namedAccounts view programId accounts [] (ix.accounts.drop 6)) := by
    rw [hix]
    exact splitAccounts_leadingMetas view programId accounts
      (by simp : ([] : List (Pubkey × UInt64)).length ≤ 2) _
  unfold parseRoute
  rw [hread, ok_bind, hsplit, ← hcount, hdata]
  rfl

/-- **The parser of a built route accepts exactly the readings of its legs.** -/
theorem parseRoute_eq_ok_iff (legs : List Leg) (parsed : List (ParsedLeg α)) :
    let ix := buildRouteInstructionEx programId accounts amountIn minAmountOut feeAsset
      exactOut mint legs
    parseRoute (ix.accounts.map view) ix.data.tail = .ok parsed ↔
      amountIn ≠ 0 ∧ ∃ read, Reading legs (ix.accounts.drop 6) read
        ∧ parsed = read.map (recoveredLeg view) := by
  intro ix
  rw [parseRoute_built]
  have hlen : (staticHeader amountIn minAmountOut feeAsset exactOut mint legs).length
      = routeHeaderLen := length_encodeHeader _ _ _ _ _ []
  have hcount : (UInt8.ofNat legs.length).toNat = legs.length % 2 ^ 8 := UInt8.toNat_ofNat'
  have hcheck : checkHeader (recoveredHeader amountIn minAmountOut
      (encodeFeeAsset feeAsset exactOut) (UInt8.ofNat legs.length) mint []) 0 = .ok () ↔
      amountIn ≠ 0 ∧ 1 ≤ legs.length % 2 ^ 8 ∧ legs.length % 2 ^ 8 ≤ maxLegs := by
    simp [checkHeader, bind_eq_ok, recoveredHeader]
  simp only [bind_eq_ok, pure_eq_ok, Prod.exists]
  constructor
  · rintro ⟨_, hok, parsed, pos', hparse, rfl⟩
    obtain ⟨hamount, hpos, hle⟩ := hcheck.mp hok
    obtain ⟨read, hread, hsized, hparsed, hbytes, hmetas⟩ := exists_legs_of_parse view hparse
    refine ⟨hamount, read, ⟨hread, by rw [hread]; exact hpos, by rw [hread]; exact hle,
      hsized, ?_, hmetas⟩, hparsed⟩
    rw [← hlen, List.drop_left] at hbytes
    exact hbytes
  · rintro ⟨hamount, read, hread, rfl⟩
    obtain ⟨bytes, hbytes⟩ := hread.bytes
    obtain ⟨metas, hmetas⟩ := hread.accounts
    have hshort := length_flatMap_encodeLeg_le hread.sized
    have hfew := length_flatMap_accounts_le hread.sized
    have hfour : read.length ≤ 4 := hread.le
    have hparse := parseLegs_encode view hread.sized
      (staticHeader amountIn minAmountOut feeAsset exactOut mint legs) bytes []
      (metas.map view)
      (by rw [List.length_append, hlen, routeHeaderLen]; omega)
      (by rw [List.length_nil, Program.maxLegAccounts] at *; omega)
    rw [hlen, List.nil_append, ← List.map_append, hbytes, hmetas, hread.count] at hparse
    exact ⟨(), hcheck.mpr ⟨hamount, hread.count ▸ hread.pos, hread.count ▸ hread.le⟩, _, _,
      hparse, rfl⟩

end

/-! ## Readings of counts that fit -/

/-- **Encodings are prefix-free**: two legs whose counts fit and whose encodings
start alike agree, up to the accounts, which are not encoded. -/
theorem encodeLeg_prefix_free {leg leg' : Leg} {xs ys : List UInt8}
    (haccounts : leg.accounts.length < 2 ^ 8) (haccounts' : leg'.accounts.length < 2 ^ 8)
    (hdata : leg.data.length < 2 ^ 16) (hdata' : leg'.data.length < 2 ^ 16)
    (h : encodeLeg leg ++ xs = encodeLeg leg' ++ ys) :
    leg.programId = leg'.programId ∧ leg.accounts.length = leg'.accounts.length
      ∧ leg.data = leg'.data ∧ xs = ys := by
  simp only [encodeLeg, List.append_assoc] at h
  obtain ⟨hprogram, h⟩ := List.append_inj h (by rw [leg.programId.size, leg'.programId.size])
  obtain ⟨hcount, h⟩ := List.append_inj h rfl
  obtain ⟨hsize, h⟩ := List.append_inj h (by rw [length_ofUInt16, length_ofUInt16])
  have hlen : leg.data.length = leg'.data.length := by
    have hcast := congrArg toUInt16 hsize
    rw [toUInt16_ofUInt16, toUInt16_ofUInt16, ← UInt16.toNat_inj,
      UInt16.toNat_ofNat_of_lt' hdata, UInt16.toNat_ofNat_of_lt' hdata'] at hcast
    exact hcast
  obtain ⟨hbytes, hrest⟩ := List.append_inj h hlen
  refine ⟨Pubkey.ext hprogram, ?_, hbytes, hrest⟩
  have hcast := UInt8.toNat_inj.mpr (List.singleton_inj.mp hcount)
  rwa [UInt8.toNat_ofNat_of_lt' haccounts, UInt8.toNat_ofNat_of_lt' haccounts'] at hcast

/-- As many legs, from the front of the same bytes and the same accounts, are the
same legs. -/
theorem legs_unique {read legs : List Leg} {xs ys : List UInt8} {ms ns : List AccountMeta}
    (hlen : read.length = legs.length) (hsized : ∀ leg ∈ read, WellSized leg)
    (haccounts : ∀ leg ∈ legs, leg.accounts.length < 2 ^ 8)
    (hdata : ∀ leg ∈ legs, leg.data.length < 2 ^ 16)
    (hbytes : read.flatMap encodeLeg ++ xs = legs.flatMap encodeLeg ++ ys)
    (hmetas : read.flatMap Leg.accounts ++ ms = legs.flatMap Leg.accounts ++ ns) :
    read = legs := by
  induction read generalizing legs with
  | nil => exact (List.length_eq_zero_iff.mp hlen.symm).symm
  | cons leg read ih =>
    cases legs with
    | nil => cases hlen
    | cons leg' legs =>
      have hwell := hsized leg (List.mem_cons_self ..)
      have hmax : Program.maxLegAccounts = 64 := rfl
      have hle := hwell.accounts_le
      rw [List.flatMap_cons, List.flatMap_cons, List.append_assoc, List.append_assoc]
        at hbytes hmetas
      obtain ⟨hprogram, hcount, hsame, hrest⟩ := encodeLeg_prefix_free (by omega)
        (haccounts leg' (List.mem_cons_self ..)) hwell.data_lt
        (hdata leg' (List.mem_cons_self ..)) hbytes
      obtain ⟨hown, hothers⟩ := List.append_inj hmetas hcount
      have htail := ih (Nat.succ.inj hlen)
        (fun l hl => hsized l (List.mem_cons_of_mem _ hl))
        (fun l hl => haccounts l (List.mem_cons_of_mem _ hl))
        (fun l hl => hdata l (List.mem_cons_of_mem _ hl)) hrest hothers
      cases leg
      cases leg'
      simp only at hprogram hown hsame
      rw [hprogram, hown, hsame, htail]

/-- **When the counts fit, the only reading of the legs is the legs.** -/
theorem Reading.eq_of_fit {legs read : List Leg} {rest : List AccountMeta}
    (h : Reading legs (legs.flatMap Leg.accounts ++ rest) read) (hfit : CountsFit legs) :
    read = legs := by
  obtain ⟨bytes, hbytes⟩ := h.bytes
  obtain ⟨metas, hmetas⟩ := h.accounts
  have hlen : read.length = legs.length := by
    rw [h.count, Nat.mod_eq_of_lt hfit.legs_lt]
  rw [← List.append_nil (legs.flatMap encodeLeg)] at hbytes
  exact legs_unique hlen h.sized hfit.accounts_lt hfit.data_lt hbytes hmetas

/-- **When a count does not fit, no reading of the legs is the legs.** -/
theorem Reading.fit_of_eq {legs read : List Leg} {passed : List AccountMeta}
    (h : Reading legs passed read)
    (heq : read.map (recoveredLeg view) = legs.map (recoveredLeg view)) :
    CountsFit legs := by
  have hlen : read.length = legs.length := by
    have hmap := congrArg List.length heq
    rwa [List.length_map, List.length_map] at hmap
  have hle : read.length ≤ 4 := h.le
  have hsized : ∀ leg ∈ legs, leg.accounts.length ≤ 64 ∧ leg.data.length < 2 ^ 16 := by
    intro leg hleg
    have hmem : recoveredLeg view leg ∈ read.map (recoveredLeg view) := by
      rw [heq]
      exact List.mem_map_of_mem hleg
    obtain ⟨leg', hleg', hsame⟩ := List.mem_map.mp hmem
    have hwell := h.sized leg' hleg'
    have hcount : leg'.accounts.length = leg.accounts.length :=
      congrArg ParsedLeg.numAccounts hsame
    have hdata : leg'.data = leg.data := congrArg ParsedLeg.data hsame
    exact ⟨hcount ▸ hwell.accounts_le, hdata ▸ hwell.data_lt⟩
  refine ⟨by omega, fun leg hleg => ?_, fun leg hleg => (hsized leg hleg).2⟩
  have hcount := (hsized leg hleg).1
  omega

/-- **Legs past a multiple of 256 are a reading of the list**, when they are
within the limits: the rest of the list is not seen. -/
theorem reading_take (legs : List Leg) (rest : List AccountMeta)
    (hpos : 1 ≤ legs.length % 2 ^ 8) (hle : legs.length % 2 ^ 8 ≤ maxLegs)
    (hsized : ∀ leg ∈ legs.take (legs.length % 2 ^ 8), WellSized leg) :
    Reading legs (legs.flatMap Leg.accounts ++ rest) (legs.take (legs.length % 2 ^ 8)) := by
  have hlen : (legs.take (legs.length % 2 ^ 8)).length = legs.length % 2 ^ 8 := by
    rw [List.length_take]
    exact Nat.min_eq_left (Nat.mod_le _ _)
  have hstarts {β : Type} (f : Leg → List β) :
      (legs.take (legs.length % 2 ^ 8)).flatMap f <+: legs.flatMap f := by
    refine ⟨(legs.drop (legs.length % 2 ^ 8)).flatMap f, ?_⟩
    rw [← List.flatMap_append, List.take_append_drop]
  exact ⟨hlen, by rw [hlen]; exact hpos, by rw [hlen]; exact hle, hsized, hstarts encodeLeg,
    (hstarts Leg.accounts).trans (List.prefix_append _ _)⟩

/-! ## Failing closed -/

/-- **An instruction fails closed** for a list of legs: if the parser accepts it,
the legs it hands out are those of the list. -/
def FailsClosed (ix : Instruction) (legs : List Leg) : Prop :=
  ∀ parsed, parseRoute (ix.accounts.map view) ix.data.tail = .ok parsed →
    parsed = legs.map (recoveredLeg view)

theorem failsClosed_static_iff [Pda] (programId : Pubkey) (accounts : Sdk.RouteAccounts)
    (amountIn minAmountOut : UInt64) (feeAsset : UInt8) (exactOut : Bool) (mint : Pubkey)
    (legs : List Leg) :
    let ix := buildRouteInstructionEx programId accounts amountIn minAmountOut feeAsset
      exactOut mint legs
    FailsClosed view ix legs ↔
      amountIn = 0 ∨ CountsFit legs ∨ ∀ read, ¬ Reading legs (ix.accounts.drop 6) read := by
  intro ix
  obtain ⟨rest, hdrop⟩ : ∃ rest, ix.accounts.drop 6 = legs.flatMap Leg.accounts ++ rest :=
    exists_accounts_drop programId accounts amountIn minAmountOut feeAsset exactOut mint legs
  have haccepts (parsed : List (ParsedLeg α)) :=
    parseRoute_eq_ok_iff view programId accounts amountIn minAmountOut feeAsset exactOut mint
      legs parsed
  constructor
  · intro h
    by_cases hzero : amountIn = 0
    · exact .inl hzero
    by_cases hsome : ∃ read, Reading legs (ix.accounts.drop 6) read
    · obtain ⟨read, hread⟩ := hsome
      have hsame := h _ ((haccepts _).mpr ⟨hzero, read, hread, rfl⟩)
      exact .inr (.inl (hread.fit_of_eq view hsame))
    · exact .inr (.inr (not_exists.mp hsome))
  · intro h parsed hparse
    obtain ⟨hamount, read, hread, rfl⟩ := (haccepts parsed).mp hparse
    rcases h with hzero | hfit | hnone
    · exact absurd hzero hamount
    · rw [hdrop] at hread
      rw [hread.eq_of_fit hfit]
    · exact absurd hread (hnone read)

/-- **When a static route fails closed.** A built route whose amount is not zero
is executed as something other than the given legs exactly when a count
does not fit its field and the bytes still read as one to four legs. The
three-hop builder in its fixed mode is the same builder on three legs. -/
theorem route_fails_closed_iff [Pda] (programId : Pubkey) (accounts : Sdk.RouteAccounts)
    (amountIn minAmountOut : UInt64) (mint : Pubkey) (legs : List Leg) :
    (∀ (feeAsset : UInt8) (exactOut : Bool),
      let ix := buildRouteInstructionEx programId accounts amountIn minAmountOut feeAsset
        exactOut mint legs
      FailsClosed view ix legs ↔
        amountIn = 0 ∨ CountsFit legs ∨ ∀ read, ¬ Reading legs (ix.accounts.drop 6) read)
    ∧ ∀ firstIntermediate secondIntermediate firstMinOut secondMinOut ix,
      buildThreeHopRouteInstruction programId accounts firstIntermediate secondIntermediate
        amountIn firstMinOut secondMinOut minAmountOut mint legs false = .ok ix →
      (FailsClosed view ix legs ↔
        amountIn = 0 ∨ CountsFit legs ∨ ∀ read, ¬ Reading legs (ix.accounts.drop 6) read) := by
  refine ⟨fun feeAsset exactOut => ?_, fun _ _ _ _ ix h => ?_⟩
  · exact failsClosed_static_iff view programId accounts amountIn minAmountOut feeAsset exactOut
      mint legs
  · match legs, h with
    | [first, middle, last], h =>
      rw [buildThreeHopRouteInstruction, if_pos (show (!false) = true from rfl), pure_eq_ok] at h
      subst h
      exact failsClosed_static_iff view programId accounts amountIn minAmountOut feeAssetToken
        false mint [first, middle, last]

/-- A fixed-mode route of three legs fails closed. -/
theorem samples_fail_closed :
    letI := samplePda
    ∃ ix, buildThreeHopRouteInstruction (sampleKey 0) sampleAccounts (sampleKey 7) (sampleKey 8)
        10 2 3 1 (sampleKey 9) [sampleFirst, sampleMiddle, sampleLast] false = .ok ix
      ∧ FailsClosed AccountView.ofMeta ix [sampleFirst, sampleMiddle, sampleLast] := by
  let := samplePda
  have hfit : CountsFit [sampleFirst, sampleMiddle, sampleLast] :=
    ⟨by decide, by decide, by decide⟩
  exact ⟨_, rfl, ((route_fails_closed_iff AccountView.ofMeta (sampleKey 0) sampleAccounts 10 1
    (sampleKey 9) [sampleFirst, sampleMiddle, sampleLast]).2 (sampleKey 7) (sampleKey 8)
      2 3 _ rfl).mpr (.inr (.inl hfit))⟩

/-- **A list of 257 legs is executed as one.** -/
theorem wrapped_count_truncates :
    letI := samplePda
    ¬ FailsClosed AccountView.ofMeta
      (buildRouteInstructionEx (sampleKey 0) sampleAccounts 10 1 1 false (sampleKey 9)
        (List.replicate 257 sampleFirst)) (List.replicate 257 sampleFirst) := by
  let := samplePda
  intro h
  obtain ⟨rest, hdrop⟩ := exists_accounts_drop (sampleKey 0) sampleAccounts 10 1 1 false
    (sampleKey 9) (List.replicate 257 sampleFirst)
  have hsized : ∀ leg ∈ (List.replicate 257 sampleFirst).take 1, WellSized leg := by
    intro leg hleg
    cases List.mem_singleton.mp hleg
    exact ⟨by decide, by decide, by decide⟩
  have hread := reading_take (List.replicate 257 sampleFirst) rest
    (by rw [List.length_replicate]; decide) (by rw [List.length_replicate]; decide)
    (by rw [List.length_replicate]; exact hsized)
  rw [List.length_replicate, ← hdrop] at hread
  have hparse := (parseRoute_eq_ok_iff AccountView.ofMeta (sampleKey 0) sampleAccounts 10 1 1
    false (sampleKey 9) _ _).mpr ⟨by decide, _, hread, rfl⟩
  have hlen := congrArg List.length (h _ hparse)
  rw [List.length_map, List.length_map, List.length_replicate] at hlen
  cases hlen

end WireFormat
