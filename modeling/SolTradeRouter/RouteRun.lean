import SolTradeRouter.Route

/-!
# Runs of a route

A route that returns went through every one of its steps. `RouteRun` is
the record of such a run – the header, the accounts, the snapshots and the
machines between the steps, each with the equation that produced it – and
`processInner_eq_ok` says that a route returns exactly when it has one.
`LegRun` is the same for one leg, and `runLegs_path` cuts a loop into its
legs. Statements about routes are statements about these records; nothing
below unfolds the route again.
-/

namespace Program

open Outcome Bytes

/-! ## Parsing -/

/-- **What the parser reads of a leg**, as slices of the data and of the
remaining accounts. -/
structure LegParse {α : Type} (data : List UInt8) (remaining : List α) (pos : LegCursor)
    (leg : ParsedLeg α) (pos' : LegCursor) : Prop where
  program : range? data pos.cursor (pos.cursor + 32) = some leg.programId.bytes
  count : data[pos.cursor + 32]? = some (UInt8.ofNat leg.numAccounts)
  count_pos : 0 < leg.numAccounts
  count_le : leg.numAccounts ≤ maxLegAccounts
  size : range? data (pos.cursor + 33) (pos.cursor + 35)
    = some (ofUInt16 (UInt16.ofNat leg.data.length))
  payload : range? data (pos.cursor + 35) (pos.cursor + 35 + leg.data.length)
    = some leg.data
  size_lt : leg.data.length < 2 ^ 16
  cursor_lt : pos.cursor + 35 + leg.data.length < 2 ^ 64
  offset_lt : pos.remainingOffset + leg.numAccounts < 2 ^ 64
  accounts : range? remaining pos.remainingOffset (pos.remainingOffset + leg.numAccounts)
    = some leg.accounts
  cursor_eq : pos'.cursor = pos.cursor + 35 + leg.data.length
  remainingOffset_eq : pos'.remainingOffset = pos.remainingOffset + leg.numAccounts

/-- A parsed leg has as many accounts as it counts. -/
theorem LegParse.length_accounts {α : Type} {data : List UInt8} {remaining : List α}
    {pos pos' : LegCursor} {leg : ParsedLeg α} (h : LegParse data remaining pos leg pos') :
    leg.accounts.length = leg.numAccounts := by
  rw [length_of_range? h.accounts]
  omega

/-- **A leg is parsed exactly when its parts are there.** -/
theorem parseLeg_eq_ok {α : Type} {data : List UInt8} {remaining : List α}
    {pos pos' : LegCursor} {leg : ParsedLeg α} :
    parseLeg data remaining pos = .ok (leg, pos') ↔ LegParse data remaining pos leg pos' := by
  simp only [parseLeg, bind_eq_ok, usizeAdd_eq_ok, okOr_eq_ok, orPanic_eq_ok, failIf_eq_ok,
    readU16_eq_ok, slice_eq_ok, pure_eq_ok, Prod.mk.injEq, Pubkey.ofBytes?_eq_some]
  constructor
  · rintro ⟨_, ⟨-, rfl⟩, _, hprogram, programId, rfl, n, hn, _, ⟨-, rfl⟩, size,
      ⟨-, bytes, hbytes, rfl⟩, _, ⟨-, rfl⟩, _, hcount, _, ⟨hcursor, rfl⟩, payload, hpayload,
      stop, hstop, _, hle, accs, haccs, rfl, rfl⟩
    have hlen : payload.length = (toUInt16 bytes).toNat := by
      rw [length_of_range? hpayload]
      omega
    have hsize : UInt16.ofNat payload.length = toUInt16 bytes := by
      rw [hlen, UInt16.ofNat_toNat]
    have hbytesLen : bytes.length = 2 := by
      rw [length_of_range? hbytes]
      omega
    split at hstop
    · rename_i hlt
      cases hstop
      exact {
        program := hprogram
        count := by rw [UInt8.ofNat_toNat]; exact hn
        count_pos := by dsimp only; omega
        count_le := by dsimp only; omega
        size := by
          dsimp only
          rw [hsize, ofUInt16_toUInt16 hbytesLen]
          exact hbytes
        payload := by dsimp only; rw [hlen]; exact hpayload
        size_lt := by dsimp only; rw [hlen]; exact (toUInt16 bytes).toNat_lt
        cursor_lt := by dsimp only; rw [hlen]; exact hcursor
        offset_lt := hlt
        accounts := haccs
        cursor_eq := by dsimp only; rw [hlen]
        remainingOffset_eq := rfl }
    · cases hstop
  · intro h
    have hcount : (UInt8.ofNat leg.numAccounts).toNat = leg.numAccounts := by
      have hmax : leg.numAccounts ≤ 64 := h.count_le
      exact UInt8.toNat_ofNat_of_lt' (by show leg.numAccounts < 2 ^ 8; omega)
    have hsize : (UInt16.ofNat leg.data.length).toNat = leg.data.length :=
      UInt16.toNat_ofNat_of_lt' h.size_lt
    have hstop : pos.remainingOffset + leg.numAccounts ≤ remaining.length := by
      obtain ⟨pre, post, hsplit, hpre, hlen⟩ := range?_eq_some_iff.mp h.accounts
      rw [hsplit, List.length_append, List.length_append]
      omega
    have hcursor := h.cursor_lt
    refine ⟨_, ⟨by omega, rfl⟩, _, h.program, leg.programId, rfl, _, h.count, _,
      ⟨by omega, rfl⟩, _, ⟨by omega, _, h.size, rfl⟩, _, ⟨by omega, rfl⟩, (), ?_, _,
      ⟨?_, rfl⟩, leg.data, ?_, pos.remainingOffset + leg.numAccounts, ?_, (), ?_,
      leg.accounts, h.accounts, ?_, ?_⟩
    · rw [hcount]
      have h₁ := h.count_pos
      have h₂ := h.count_le
      omega
    · rw [toUInt16_ofUInt16, hsize]
      exact hcursor
    · rw [toUInt16_ofUInt16, hsize]
      exact h.payload
    · rw [hcount]
      exact if_pos h.offset_lt
    · exact Nat.not_lt.mpr hstop
    · rw [hcount]
    · obtain ⟨cursor, offset⟩ := pos'
      have h₁ : cursor = _ := h.cursor_eq
      have h₂ : offset = _ := h.remainingOffset_eq
      rw [toUInt16_ofUInt16, hsize, h₁, h₂]

/-! ## One leg -/

/-- A route has a leg, so the index of its last leg can be computed. -/
theorem numLegs_pos {h : RouteHeader} {dynamicIntermediates : ℕ}
    (hcheck : checkHeader h dynamicIntermediates = .ok ()) : 1 ≤ h.numLegs := by
  simp only [checkHeader, bind_eq_ok, failIf_eq_ok, not_not] at hcheck
  obtain ⟨_, -, _, hlegs, -⟩ := hcheck
  exact hlegs.1

/-- The index of the last leg is computed where there is one. -/
theorem isLastLeg_eq {f : RouteFrame} (h : 1 ≤ f.header.numLegs) (legIndex : ℕ) :
    isLastLeg f legIndex
      = .ok (decide (f.dynamic = true ∧ legIndex = f.header.numLegs - 1)) := by
  unfold isLastLeg
  by_cases hdyn : f.dynamic = true
  · rw [if_pos hdyn, usizeSub_of_le h, ok_bind]
    simp [hdyn, pure, Except.pure]
  · rw [if_neg hdyn]
    simp [hdyn, pure, Except.pure]

/-- **The data a leg is called with**, by its place in the route. -/
theorem legInvokeData_eq {f : RouteFrame} (h : 1 ≤ f.header.numLegs) (l : Ledger)
    (legIndex : ℕ) (leg : ParsedLeg AccountView) (quoteReceived : UInt64) :
    legInvokeData l f legIndex leg quoteReceived
      = if f.threeHop ∧ legIndex = 1 then middleLegData l f leg quoteReceived
        else if f.dynamic ∧ legIndex = f.header.numLegs - 1 then
          lastLegData l f leg quoteReceived
        else if f.dynamic ∧ legIndex = 0 then do
          checkFirstLeg f leg
          pure leg.data
        else pure leg.data := by
  unfold legInvokeData
  rw [isLastLeg_eq h, ok_bind]
  simp only [decide_eq_true_eq]

/-- **The record of one leg**, from machine `m` to machine `m'`. -/
structure LegRun (rt : Runtime) (data : List UInt8) (f : RouteFrame) (legIndex : ℕ)
    (s : LegLoop) (m : Machine) (s' : LegLoop) (m' : Machine) where
  leg : ParsedLeg AccountView
  invokeData : List UInt8
  metas : List AccountMeta
  parsed : parseLeg data f.accounts.remaining s.pos = .ok (leg, s'.pos)
  data_eq : legInvokeData m.ledger f legIndex leg s.quoteReceived = .ok invokeData
  metas_eq : buildMetas leg.accounts leg.numAccounts = .ok metas
  called : invoke rt ⟨leg.programId, metas, invokeData⟩ m = .ok () m'
  quote_eq : quoteAfterLeg m'.ledger f legIndex s.quoteReceived = .ok s'.quoteReceived

namespace LegRun

variable {rt : Runtime} {data : List UInt8} {f : RouteFrame} {legIndex : ℕ}
  {s s' : LegLoop} {m m' : Machine}

/-- The call the leg makes. -/
def event (r : LegRun rt data f legIndex s m s' m') : CpiEvent :=
  ⟨⟨r.leg.programId, r.metas, r.invokeData⟩, m.ledger, m'.ledger⟩

/-- A leg is one call. -/
theorem trace_eq (r : LegRun rt data f legIndex s m s' m') :
    m'.trace = m.trace ++ [r.event] :=
  (invoke_eq_ok.mp r.called).2

/-- And the runtime answered it. -/
theorem cpi_eq (r : LegRun rt data f legIndex s m s' m') :
    rt.cpi m.trace.length r.event.call m.ledger = .ok m'.ledger :=
  (invoke_eq_ok.mp r.called).1

end LegRun

/-- **A leg returns exactly when it has a record.** -/
theorem legStep_eq_ok {rt : Runtime} {data : List UInt8} {f : RouteFrame} {legIndex : ℕ}
    {s s' : LegLoop} {m m' : Machine} :
    legStep rt data f legIndex s m = .ok s' m'
      ↔ Nonempty (LegRun rt data f legIndex s m s' m') := by
  simp only [legStep, run_lift_bind_eq_ok, currentLedger_bind]
  constructor
  · rintro ⟨parsed, hparse, invokeData, hdata, metas, hmetas, h⟩
    obtain ⟨⟨⟩, m₁, hcall, h⟩ := run_bind_eq_ok.mp h
    rw [currentLedger_bind, run_lift_bind_eq_ok] at h
    obtain ⟨quote, hquote, h⟩ := h
    obtain ⟨rfl, rfl⟩ := run_pure_eq_ok.mp h
    exact ⟨⟨parsed.1, invokeData, metas, hparse, hdata, hmetas, hcall, hquote⟩⟩
  · rintro ⟨leg, invokeData, metas, hparse, hdata, hmetas, hcall, hquote⟩
    refine ⟨(leg, s'.pos), hparse, invokeData, hdata, metas, hmetas, ?_⟩
    refine run_bind_eq_ok.mpr ⟨(), m', hcall, ?_⟩
    rw [currentLedger_bind, run_lift_bind_eq_ok]
    exact ⟨s'.quoteReceived, hquote, run_pure_eq_ok.mpr ⟨rfl, rfl⟩⟩

/-! ## The loop -/

/-- The parse that the loop makes, without its calls. -/
def parseLegs {α : Type} (data : List UInt8) (remaining : List α) :
    ℕ → LegCursor → Read (List (ParsedLeg α) × LegCursor)
  | 0, pos => pure ([], pos)
  | left + 1, pos => do
    let parsed ← parseLeg data remaining pos
    let rest ← parseLegs data remaining left parsed.2
    pure (parsed.1 :: rest.1, rest.2)

/-- **The record of a loop**: the state and the machine before each leg and
after the last, the legs as they were parsed, and the calls they made. -/
structure LegsPath (rt : Runtime) (data : List UInt8) (f : RouteFrame) (n i : ℕ)
    (s : LegLoop) (m : Machine) (s' : LegLoop) (m' : Machine) where
  loops : ℕ → LegLoop
  machines : ℕ → Machine
  legs : List (ParsedLeg AccountView)
  events : List CpiEvent
  loops_zero : loops 0 = s
  machines_zero : machines 0 = m
  loops_end : loops n = s'
  machines_end : machines n = m'
  length_legs : legs.length = n
  length_events : events.length = n
  parsed : parseLegs data f.accounts.remaining n s.pos = .ok (legs, s'.pos)
  trace_eq : m'.trace = m.trace ++ events
  run : ∀ k < n, ∃ r : LegRun rt data f (i + k) (loops k) (machines k) (loops (k + 1))
    (machines (k + 1)), legs[k]? = some r.leg ∧ events[k]? = some r.event

/-- **A loop that returns has a record**: it parses its legs in order and
calls each of them once. -/
theorem runLegs_path {rt : Runtime} {data : List UInt8} {f : RouteFrame} {n i : ℕ}
    {s s' : LegLoop} {m m' : Machine} (h : runLegs rt data f n i s m = .ok s' m') :
    Nonempty (LegsPath rt data f n i s m s' m') := by
  induction n generalizing i s m with
  | zero =>
    rw [runLegs, run_pure_eq_ok] at h
    obtain ⟨rfl, rfl⟩ := h
    exact ⟨{
      loops := fun _ => s
      machines := fun _ => m
      legs := []
      events := []
      loops_zero := rfl
      machines_zero := rfl
      loops_end := rfl
      machines_end := rfl
      length_legs := rfl
      length_events := rfl
      parsed := rfl
      trace_eq := (List.append_nil _).symm
      run := fun k hk => absurd hk (Nat.not_lt_zero k) }⟩
  | succ n ih =>
    rw [runLegs, run_bind_eq_ok] at h
    obtain ⟨s₁, m₁, hstep, hrest⟩ := h
    obtain ⟨first⟩ := legStep_eq_ok.mp hstep
    obtain ⟨rest⟩ := ih hrest
    exact ⟨{
      loops := fun k => k.casesOn s rest.loops
      machines := fun k => k.casesOn m rest.machines
      legs := first.leg :: rest.legs
      events := first.event :: rest.events
      loops_zero := rfl
      machines_zero := rfl
      loops_end := rest.loops_end
      machines_end := rest.machines_end
      length_legs := by rw [List.length_cons, rest.length_legs]
      length_events := by rw [List.length_cons, rest.length_events]
      parsed := by
        rw [parseLegs, first.parsed, ok_bind, rest.parsed]
        rfl
      trace_eq := by
        rw [rest.trace_eq, first.trace_eq, List.append_assoc, List.singleton_append]
      run := fun k hk => by
        cases k with
        | zero =>
          show ∃ r : LegRun rt data f i s m (rest.loops 0) (rest.machines 0),
            some first.leg = some r.leg ∧ some first.event = some r.event
          rw [rest.loops_zero, rest.machines_zero]
          exact ⟨first, rfl, rfl⟩
        | succ k =>
          show ∃ r : LegRun rt data f (i + (k + 1)) (rest.loops k) (rest.machines k)
              (rest.loops (k + 1)) (rest.machines (k + 1)),
            rest.legs[k]? = some r.leg ∧ rest.events[k]? = some r.event
          rw [show i + (k + 1) = i + 1 + k by omega]
          exact rest.run k (by omega) }⟩

/-! ## The route -/

/-- **The record of a route that returned**, from machine `m` to machine
`m'`; `charged` is the machine once the fee is taken. -/
structure RouteRun [Pda] (rt : Runtime) (programId : Address) (accounts : List AccountView)
    (data : List UInt8) (dynamicIntermediates : ℕ) (m m' : Machine) where
  header : RouteHeader
  a : RouteAccounts AccountView
  cfg : RouterConfig
  nativeSolOut : Bool
  fee : UInt64
  sourceBefore : UInt64
  charged : Machine
  outputBefore : UInt64
  quote : UInt64
  second : UInt64
  final : LegLoop
  sourceAfter : UInt64
  outputAfter : UInt64
  header_eq : readHeader data dynamicIntermediates = .ok header
  header_ok : checkHeader header dynamicIntermediates = .ok ()
  accounts_eq : splitAccounts accounts dynamicIntermediates = .ok a
  signed : a.user.isSigner = true
  cfg_eq : checkConfig m.ledger programId a.config = .ok cfg
  output_ok : validateOutput m.ledger a.user a.userOutput header.expectedOutputMint
    (dynamicIntermediates ≠ 0) = .ok nativeSolOut
  fee_eq : checkedFee header.amountIn cfg.feeBps = .ok fee
  sourceBefore_eq : feeSourceBefore m.ledger header.feeAsset a.user a.feeSource
    = .ok sourceBefore
  charged_eq : chargeFee rt cfg header.feeAsset fee a m = .ok () charged
  outputBefore_eq : outputBalance charged.ledger a.userOutput nativeSolOut
    = .ok outputBefore
  quote_eq : quoteBefore charged.ledger a = .ok quote
  second_eq : secondIntermediateBefore charged.ledger a = .ok second
  legs : runLegs rt data ⟨header, dynamicIntermediates, a, quote, second⟩
    header.numLegs 0 ⟨⟨routeHeaderLen + 8 * dynamicIntermediates, 0⟩, 0⟩ charged
    = .ok final m'
  consumed : dynamicIntermediates ≠ 0 → final.pos.cursor = data.length
  quote_unspent : checkUnspent m'.ledger quote a.intermediate = .ok ()
  second_unspent : checkUnspent m'.ledger second a.secondIntermediate = .ok ()
  sourceAfter_eq : feeSourceBalance m'.ledger header.feeAsset a.feeSource = .ok sourceAfter
  spend_ok : validateSpend sourceBefore sourceAfter header.amountIn fee header.exactOut
    = .ok ()
  outputAfter_eq : outputBalance m'.ledger a.userOutput nativeSolOut = .ok outputAfter
  received_ok : checkReceived outputBefore outputAfter header.minAmountOut = .ok ()

/-- **A route returns exactly when it has a record.** -/
theorem processInner_eq_ok [Pda] {rt : Runtime} {programId : Address}
    {accounts : List AccountView} {data : List UInt8} {dynamicIntermediates : ℕ}
    {m m' : Machine} {u : Unit} :
    processInner rt programId accounts data dynamicIntermediates m = .ok u m'
      ↔ Nonempty (RouteRun rt programId accounts data dynamicIntermediates m m') := by
  simp only [processInner, run_lift_bind_eq_ok, currentLedger_bind]
  constructor
  · rintro ⟨header, hheader, ⟨⟩, hheaderOk, a, haccounts, ⟨⟩, hsigned, cfg, hcfg,
      nativeSolOut, houtput, fee, hfee, sourceBefore, hbefore, h⟩
    obtain ⟨⟨⟩, charged, hcharged, h⟩ := run_bind_eq_ok.mp h
    simp only [run_lift_bind_eq_ok, currentLedger_bind] at h
    obtain ⟨outputBefore, hob, quote, hquote, second, hsecond, h⟩ := h
    obtain ⟨final, last, hlegs, h⟩ := run_bind_eq_ok.mp h
    simp only [run_lift_bind_eq_ok, currentLedger_bind, run_lift_eq_ok] at h
    obtain ⟨⟨⟩, hconsumed, ⟨⟩, hun₁, ⟨⟩, hun₂, sourceAfter, hafter, ⟨⟩, hspend,
      outputAfter, hoa, hreceived, rfl⟩ := h
    rw [failIf_eq_ok] at hsigned hconsumed
    exact ⟨⟨header, a, cfg, nativeSolOut, fee, sourceBefore, charged, outputBefore, quote,
      second, final, sourceAfter, outputAfter, hheader, hheaderOk, haccounts,
      by simpa using hsigned, hcfg, houtput, hfee, hbefore, hcharged, hob, hquote, hsecond,
      hlegs, fun hd => by_contra fun hc => hconsumed ⟨hd, hc⟩, hun₁, hun₂, hafter, hspend,
      hoa, hreceived⟩⟩
  · rintro ⟨r⟩
    refine ⟨r.header, r.header_eq, (), r.header_ok, r.a, r.accounts_eq, (),
      failIf_eq_ok.mpr (by simp [r.signed]), r.cfg, r.cfg_eq, r.nativeSolOut, r.output_ok,
      r.fee, r.fee_eq, r.sourceBefore, r.sourceBefore_eq, ?_⟩
    refine run_bind_eq_ok.mpr ⟨(), r.charged, r.charged_eq, ?_⟩
    simp only [run_lift_bind_eq_ok, currentLedger_bind]
    refine ⟨r.outputBefore, r.outputBefore_eq, r.quote, r.quote_eq, r.second, r.second_eq, ?_⟩
    refine run_bind_eq_ok.mpr ⟨r.final, m', r.legs, ?_⟩
    simp only [run_lift_bind_eq_ok, currentLedger_bind, run_lift_eq_ok]
    exact ⟨(), failIf_eq_ok.mpr fun h => h.2 (r.consumed h.1), (), r.quote_unspent, (),
      r.second_unspent, r.sourceAfter, r.sourceAfter_eq, (), r.spend_ok, r.outputAfter,
      r.outputAfter_eq, r.received_ok, trivial⟩

/-! ## What a route changes -/

section

variable {R : Ledger → Ledger → Prop} {rt : Runtime} (hrefl : ∀ l, R l l)
  (htrans : ∀ ⦃l l' l''⦄, R l l' → R l' l'' → R l l'')
  (hrt : ∀ n cpi l l', rt.cpi n cpi l = .ok l' → R l l')

include hrefl hrt

/-- Taking the fee moves the ledger as its call does. -/
theorem chargeFee_moves (cfg : RouterConfig) (feeAsset : UInt8) (fee : UInt64)
    (a : RouteAccounts AccountView) : MovesLedger R (chargeFee rt cfg feeAsset fee a) := by
  refine moves_ite ?_ (moves_pure (fun m => hrefl m.ledger) ())
  refine moves_currentLedger_bind fun l => moves_lift_bind (fun m => hrefl m.ledger) ?_
  exact fun call => moves_invoke hrefl hrt call

include htrans

/-- A leg moves it as its call does. -/
theorem legStep_moves (data : List UInt8) (f : RouteFrame) (legIndex : ℕ) (s : LegLoop) :
    MovesLedger R (legStep rt data f legIndex s) := by
  have hr : ∀ m : Machine, R m.ledger m.ledger := fun m => hrefl m.ledger
  refine moves_lift_bind hr fun parsed => moves_currentLedger_bind fun l => ?_
  refine moves_lift_bind hr fun invokeData => moves_lift_bind hr fun metas => ?_
  refine moves_ledger_bind htrans (moves_invoke hrefl hrt _) fun _ => ?_
  exact moves_currentLedger_bind fun l => moves_lift_bind hr fun q => moves_pure hr _

/-- And the legs do one after the other, by induction on their number. -/
theorem runLegs_moves (data : List UInt8) (f : RouteFrame) (n legIndex : ℕ) (s : LegLoop) :
    MovesLedger R (runLegs rt data f n legIndex s) := by
  induction n generalizing legIndex s with
  | zero => exact moves_pure (fun m => hrefl m.ledger) s
  | succ n ih =>
    exact moves_ledger_bind htrans (legStep_moves hrefl htrans hrt data f legIndex s)
      fun s' => ih (legIndex + 1) s'

/-- **A route changes accounts through its calls only**, whether it returns
or stops. -/
theorem processInner_moves [Pda] (programId : Address) (accounts : List AccountView)
    (data : List UInt8) (dyn : ℕ) :
    MovesLedger R (processInner rt programId accounts data dyn) := by
  have hr : ∀ m : Machine, R m.ledger m.ledger := fun m => hrefl m.ledger
  refine moves_lift_bind hr fun header => moves_lift_bind hr fun _ => ?_
  refine moves_lift_bind hr fun a => moves_lift_bind hr fun _ => ?_
  refine moves_currentLedger_bind fun entry => moves_lift_bind hr fun cfg => ?_
  refine moves_lift_bind hr fun native => moves_lift_bind hr fun fee => ?_
  refine moves_lift_bind hr fun before => ?_
  refine moves_ledger_bind htrans (chargeFee_moves hrefl hrt cfg header.feeAsset fee a) fun _ => ?_
  refine moves_currentLedger_bind fun charged => moves_lift_bind hr fun output => ?_
  refine moves_lift_bind hr fun quote => moves_lift_bind hr fun second => ?_
  refine moves_ledger_bind htrans (runLegs_moves hrefl htrans hrt data _ _ _ _) fun final => ?_
  -- the settlement only reads
  refine moves_lift_bind hr fun _ => moves_currentLedger_bind fun last => ?_
  refine moves_lift_bind hr fun _ => moves_lift_bind hr fun _ => ?_
  refine moves_lift_bind hr fun after => moves_lift_bind hr fun _ => ?_
  exact moves_lift_bind hr fun outputAfter => moves_lift hr _

end

end Program
