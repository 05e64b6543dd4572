import SolTradeRouter.Raised

/-!
# What a dynamic route can stop with

Some errors of the program say that an instruction was put together the
wrong way: its header, the number and the shape of its legs, the positions
and the privileges of its accounts. The other errors are about balances,
fees and prices, and a well-formed instruction can meet them.
`InvalidIntermediateAccount` is the one error with both meanings: it is
also what the program answers when an intermediate account has lost
balance since its snapshot.

`processInner_ensures` runs a route up to its last leg on the assumption
that its structural checks pass, and says what it can stop with.
-/

namespace Program

open Outcome Bytes

/-- **The errors about the structure of an instruction.** -/
def structuralErrors : List ProgramError :=
  [RouterError.invalidInstructionData, RouterError.tooManyLegs, RouterError.invalidLeg,
    RouterError.insufficientAccounts, RouterError.invalidIntermediateAccount,
    RouterError.invalidDynamicLeg, RouterError.invalidOutputAccount,
    RouterError.invalidOutputMint, .missingRequiredSignature]

/-- A stop that is not about the structure. -/
def Benign (e : Abort ProgramError) : Prop := ∀ pe ∈ structuralErrors, e ≠ .error pe

instance : DecidablePred Benign := fun _ => inferInstanceAs (Decidable (∀ _ ∈ _, _))

/-! ## Readers -/

/-- **A received amount cannot be computed only when balance was lost.** -/
theorem raises_receivedQuote {P : Abort ProgramError → Prop} {before after minimum : UInt64}
    (hbenign : ∀ e, Benign e → P e)
    (hlost : after < before → P (.error RouterError.invalidIntermediateAccount)) :
    Raises P (receivedQuote before after minimum) := by
  refine raises_bind ?_ fun _ _ => raises_bind
    (raises_failIf fun _ => hbenign _ (by decide)) fun _ _ => raises_ok _
  by_cases h : before ≤ after
  · rw [if_pos h]
    exact raises_ok _
  · rw [if_neg h]
    exact raises_error (hlost (UInt64.not_le.mp h))

/-- **After a leg, only lost balance is answered with a structural error.** -/
theorem raises_quoteAfterLeg {P : Abort ProgramError → Prop} {l : Ledger} {f : RouteFrame}
    {legIndex : ℕ} {quoteReceived : UInt64} (hbenign : ∀ e, Benign e → P e)
    (hfirst : f.dynamic → ∃ x, f.accounts.intermediate = some x
      ∧ ∀ after, tokenAmount l x = .ok after → after < f.quoteBefore →
        P (.error RouterError.invalidIntermediateAccount))
    (hsecond : f.threeHop → ∃ x, f.accounts.secondIntermediate = some x
      ∧ ∀ after, tokenAmount l x = .ok after → after < f.secondIntermediateBefore →
        P (.error RouterError.invalidIntermediateAccount)) :
    Raises P (quoteAfterLeg l f legIndex quoteReceived) := by
  refine raises_ite (fun hc => ?_) fun _ => raises_ite (fun hc => ?_) fun _ => raises_ok _
  · obtain ⟨x, hx, hlost⟩ := hfirst hc.1
    rw [hx]
    refine raises_bind (raises_ok x) fun y hy => ?_
    cases hy
    refine raises_bind (fun e he => hbenign e
      ((reports_tokenAmount l x).raises (by decide) e he))
      fun after hafter => ?_
    exact raises_receivedQuote hbenign (hlost after hafter)
  · obtain ⟨x, hx, hlost⟩ := hsecond hc.1
    rw [hx]
    refine raises_bind (raises_ok x) fun y hy => ?_
    cases hy
    refine raises_bind (fun e he => hbenign e
      ((reports_tokenAmount l x).raises (by decide) e he))
      fun after hafter => ?_
    exact raises_receivedQuote hbenign (hlost after hafter)

/-! ## The legs -/

/-- The calls made since a machine. -/
def callsSince (start m : Machine) : List CpiEvent := m.trace.drop start.trace.length

/-- **An account lost balance**: it holds less than it did before one of
the calls since a machine. -/
def LostBalance (calls : List CpiEvent) (l : Ledger) (account : AccountView) : Prop :=
  ∃ ev ∈ calls, ∃ before after, tokenAmount ev.before account = .ok before
    ∧ tokenAmount l account = .ok after ∧ after < before

/-- **What the loop over the legs keeps**: the ledger is good, and the ledger
of the snapshots is still there, or was before one of the calls since. -/
structure Since (Good : Ledger → Prop) (charged m : Machine) : Prop where
  good : Good m.ledger
  grown : ∃ evs, m.trace = charged.trace ++ evs
  snapshot : m.ledger = charged.ledger ∨ ∃ ev ∈ callsSince charged m,
    ev.before = charged.ledger

theorem since_refl {Good : Ledger → Prop} {m : Machine} (h : Good m.ledger) :
    Since Good m m where
  good := h
  grown := ⟨[], (List.append_nil _).symm⟩
  snapshot := .inl rfl

section

variable {Good : Ledger → Prop} {charged m : Machine}

/-- After a call, the ledger of the snapshots is before one of the calls. -/
theorem Since.after_call (h : Since Good charged m) {after : Ledger} (hgood : Good after)
    (call : CpiCall) :
    Since Good charged ⟨after, m.trace ++ [⟨call, m.ledger, after⟩]⟩
      ∧ ∃ ev ∈ callsSince charged ⟨after, m.trace ++ [⟨call, m.ledger, after⟩]⟩,
        ev.before = charged.ledger := by
  obtain ⟨evs, hevs⟩ := h.grown
  have hcalls : callsSince charged ⟨after, m.trace ++ [⟨call, m.ledger, after⟩]⟩
      = callsSince charged m ++ [⟨call, m.ledger, after⟩] := by
    show (m.trace ++ [_]).drop _ = m.trace.drop _ ++ _
    rw [hevs, List.append_assoc, List.drop_left, List.drop_left]
  have hbefore : ∃ ev ∈ callsSince charged ⟨after, m.trace ++ [⟨call, m.ledger, after⟩]⟩,
      ev.before = charged.ledger := by
    rw [hcalls]
    rcases h.snapshot with hsame | ⟨ev, hev, hsame⟩
    · exact ⟨_, List.mem_append_right _ (List.mem_singleton_self _), hsame⟩
    · exact ⟨ev, List.mem_append_left _ hev, hsame⟩
  refine ⟨⟨hgood, ⟨evs ++ [⟨call, m.ledger, after⟩], ?_⟩, .inr hbefore⟩, hbefore⟩
  rw [hevs, List.append_assoc]

variable {rt : Runtime} {data : List UInt8} {f : RouteFrame}
  {E : Abort ProgramError → Machine → Prop}

/-- What the legs may assume: calls succeed, and keep the ledger good; the
snapshots are balances of the intermediate accounts; and the errors
tolerated include the benign ones, and the answer to lost balance. -/
structure LegsHypotheses (rt : Runtime) (Good : Ledger → Prop) (f : RouteFrame)
    (charged : Machine) (E : Abort ProgramError → Machine → Prop) : Prop where
  calls : ∀ n call l, Good l → ∃ l', rt.cpi n call l = .ok l' ∧ Good l'
  first : f.dynamic → ∃ x, f.accounts.intermediate = some x
    ∧ tokenAmount charged.ledger x = .ok f.quoteBefore
  second : f.threeHop → ∃ x, f.accounts.secondIntermediate = some x
    ∧ tokenAmount charged.ledger x = .ok f.secondIntermediateBefore
  benign : ∀ e m', Benign e → E e m'
  lost : ∀ m' x, f.accounts.intermediate = some x ∨ f.accounts.secondIntermediate = some x →
    LostBalance (callsSince charged m') m'.ledger x →
    E (.error RouterError.invalidIntermediateAccount) m'

/-- **One leg that is parsed and passes its checks** moves the cursors on, or
stops with an error that is tolerated. -/
theorem legStep_ensures (H : LegsHypotheses rt Good f charged E)
    {i : ℕ} {s : LegLoop} {leg : ParsedLeg AccountView} {pos' : LegCursor}
    (hparse : parseLeg data f.accounts.remaining s.pos = .ok (leg, pos'))
    (hdata : ∃ out, legInvokeData m.ledger f i leg s.quoteReceived = .ok out)
    (hinv : Since Good charged m) :
    Ensures (fun s' m' => s'.pos = pos' ∧ Since Good charged m') E
      (legStep rt data f i s m) := by
  have hleg := parseLeg_eq_ok.mp hparse
  obtain ⟨out, hout⟩ := hdata
  refine ensures_ok_bind hparse (ensures_currentLedger_bind ?_)
  refine ensures_ok_bind hout (ensures_ok_bind
    (buildMetas_eq hleg.length_accounts hleg.count_le) (ensures_bind ?_))
  obtain ⟨after, hcall, hafter⟩ := H.calls m.trace.length
    ⟨leg.programId, leg.accounts.map AccountView.toMeta, out⟩ m.ledger hinv.good
  obtain ⟨hinv', ev, hev, hbefore⟩ := hinv.after_call hafter
    ⟨leg.programId, leg.accounts.map AccountView.toMeta, out⟩
  refine ensures_invoke hcall (ensures_currentLedger_bind
    (ensures_lift_bind ?_ fun quote _ => ensures_pure ⟨rfl, hinv'⟩))
  refine raises_quoteAfterLeg (fun e he => H.benign e _ he) (fun hd => ?_) (fun ht => ?_)
  · obtain ⟨x, hx, hsnap⟩ := H.first hd
    exact ⟨x, hx, fun n hn hlt => H.lost _ x (.inl hx)
      ⟨ev, hev, _, n, by rw [hbefore]; exact hsnap, hn, hlt⟩⟩
  · obtain ⟨x, hx, hsnap⟩ := H.second ht
    exact ⟨x, hx, fun n hn hlt => H.lost _ x (.inr hx)
      ⟨ev, hev, _, n, by rw [hbefore]; exact hsnap, hn, hlt⟩⟩

/-- **Legs that are parsed and pass their checks**: by induction on their
number, the invariant `Since` carried from each to the next. -/
theorem runLegs_ensures (H : LegsHypotheses rt Good f charged E) {n i : ℕ} {s : LegLoop}
    {legs : List (ParsedLeg AccountView)} {pos' : LegCursor}
    (hparse : parseLegs data f.accounts.remaining n s.pos = .ok (legs, pos'))
    (hdata : ∀ j leg, legs[j]? = some leg → ∀ l, Good l → ∀ quote,
      ∃ out, legInvokeData l f (i + j) leg quote = .ok out)
    (hinv : Since Good charged m) :
    Ensures (fun s' m' => s'.pos = pos' ∧ Since Good charged m') E
      (runLegs rt data f n i s m) := by
  induction n generalizing i s m legs with
  | zero =>
    rw [parseLegs, pure_eq_ok, Prod.mk.injEq] at hparse
    exact ensures_pure ⟨hparse.2, hinv⟩
  | succ n ih =>
    rw [parseLegs] at hparse
    obtain ⟨⟨leg, pos⟩, hfirst, hparse⟩ := bind_eq_ok.mp hparse
    obtain ⟨⟨rest, pos''⟩, hrest, hparse⟩ := bind_eq_ok.mp hparse
    rw [pure_eq_ok, Prod.mk.injEq] at hparse
    obtain ⟨rfl, rfl⟩ := hparse
    refine ensures_bind (ensures_imp (legStep_ensures H hfirst
      (hdata 0 leg rfl m.ledger hinv.good s.quoteReceived) hinv) ?_ fun _ _ he => he)
    rintro s' m' ⟨hpos, hinv'⟩
    refine ih (by rw [hpos]; exact hrest) (fun j leg' hleg' l hl quote => ?_) hinv'
    have h := hdata (j + 1) leg' hleg' l hl quote
    rwa [← Nat.add_assoc, Nat.add_right_comm] at h

end

/-! ## The route -/

/-- **An instruction whose structure is right**, on every good ledger. -/
structure Structured (accounts : List AccountView) (data : List UInt8) (dyn : ℕ)
    (Good : Ledger → Prop) (header : RouteHeader) (a : RouteAccounts AccountView) : Prop where
  header_eq : readHeader data dyn = .ok header
  header_ok : checkHeader header dyn = .ok ()
  accounts_eq : splitAccounts accounts dyn = .ok a
  signed : a.user.isSigner = true
  output_ok : ∀ l, Good l → validateOutput l a.user a.userOutput header.expectedOutputMint
    (dyn ≠ 0) = .ok false
  output_amount : ∀ l, Good l → ∃ n, tokenAmount l a.userOutput = .ok n
  quote_ok : ∀ l, Good l → ∃ n, quoteBefore l a = .ok n
  second_ok : ∀ l, Good l → ∃ n, secondIntermediateBefore l a = .ok n

/-- How many calls the fee takes. -/
def feeCalls (amountIn : UInt64) (feeBps : UInt16) : ℕ :=
  if amountIn.toNat * feeBps.toNat / 10000 = 0 then 0 else 1

/-- **The fee takes one call at most**, and keeps the ledger good. -/
theorem chargeFee_ensures {rt : Runtime} {Good : Ledger → Prop} {cfg : RouterConfig}
    {feeAsset : UInt8} {amountIn fee : UInt64} {a : RouteAccounts AccountView} {m : Machine}
    {E : Abort ProgramError → Machine → Prop}
    (hfee : fee.toNat = amountIn.toNat * cfg.feeBps.toNat / 10000) (hgood : Good m.ledger)
    (hcalls : ∀ n call l, Good l → ∃ l', rt.cpi n call l = .ok l' ∧ Good l')
    (htransfer : Raises (E · m) (feeTransfer m.ledger cfg feeAsset fee a)) :
    Ensures (fun _ charged => Good charged.ledger
      ∧ charged.trace.length = m.trace.length + feeCalls amountIn cfg.feeBps) E
      (chargeFee rt cfg feeAsset fee a m) := by
  unfold chargeFee feeCalls
  rw [← hfee]
  by_cases hz : fee.toNat = 0
  · have hzero : ¬ fee > 0 := fun hc => Nat.ne_of_gt (UInt64.lt_iff_toNat_lt.mp hc) hz
    rw [if_pos hz, if_neg hzero]
    exact ensures_pure ⟨hgood, rfl⟩
  · have hpos : fee > 0 := UInt64.lt_iff_toNat_lt.mpr (Nat.pos_of_ne_zero hz)
    rw [if_neg hz, if_pos hpos]
    refine ensures_currentLedger_bind (ensures_lift_bind htransfer fun call _ => ?_)
    obtain ⟨after, hcall, hafter⟩ := hcalls m.trace.length call m.ledger hgood
    exact ensures_invoke hcall ⟨hafter, by rw [List.length_append]; rfl⟩

/-- **A route whose structure is right stops with an error of its fee, of its
legs, or of its settlement.** -/
theorem processInner_ensures [Pda] {rt : Runtime} {programId : Address}
    {accounts : List AccountView} {data : List UInt8} {dyn : ℕ} {Good : Ledger → Prop}
    {header : RouteHeader} {a : RouteAccounts AccountView} {cfg : RouterConfig} {m : Machine}
    {E : Abort ProgramError → Machine → Prop} {P : LegLoop → Machine → Prop}
    (h : Structured accounts data dyn Good header a)
    (hcfg : checkConfig m.ledger programId a.config = .ok cfg) (hgood : Good m.ledger)
    (hcalls : ∀ n call l, Good l → ∃ l', rt.cpi n call l = .ok l' ∧ Good l')
    (hfee : Raises (E · m) (checkedFee header.amountIn cfg.feeBps))
    (hsource : Raises (E · m) (feeSourceBefore m.ledger header.feeAsset a.user a.feeSource))
    (htransfer : ∀ fee, Raises (E · m) (feeTransfer m.ledger cfg header.feeAsset fee a))
    (hlegs : ∀ charged quote second, Good charged.ledger →
      charged.trace.length = m.trace.length + feeCalls header.amountIn cfg.feeBps →
      quoteBefore charged.ledger a = .ok quote →
      secondIntermediateBefore charged.ledger a = .ok second →
      Ensures P E (runLegs rt data ⟨header, dyn, a, quote, second⟩ header.numLegs 0
        ⟨⟨routeHeaderLen + 8 * dyn, 0⟩, 0⟩ charged))
    (hrest : ∀ s m', P s m' → s.pos.cursor = data.length ∧ ∀ e, Benign e → E e m') :
    Ensures (fun _ m' => ∃ s, P s m') E (processInner rt programId accounts data dyn m) := by
  have hsigned : failIf ((!a.user.isSigner) = true) ProgramError.missingRequiredSignature
      = .ok () := failIf_eq_ok.mpr (by simp [h.signed])
  refine ensures_ok_bind h.header_eq (ensures_ok_bind h.header_ok
    (ensures_ok_bind h.accounts_eq (ensures_ok_bind hsigned (ensures_currentLedger_bind
      (ensures_ok_bind hcfg (ensures_ok_bind (h.output_ok m.ledger hgood) ?_))))))
  refine ensures_lift_bind hfee fun fee hfeeEq => ensures_lift_bind hsource fun before _ => ?_
  have hcharge := chargeFee_ensures (checkedFee_eq_ok hfeeEq) hgood hcalls (htransfer fee)
  refine ensures_bind (ensures_imp hcharge ?_ fun _ _ he => he)
  rintro ⟨⟩ charged ⟨hcharged, hcount⟩
  obtain ⟨outputBefore, hob⟩ := h.output_amount charged.ledger hcharged
  obtain ⟨quote, hquote⟩ := h.quote_ok charged.ledger hcharged
  obtain ⟨second, hsecond⟩ := h.second_ok charged.ledger hcharged
  refine ensures_currentLedger_bind (ensures_ok_bind hob (ensures_ok_bind hquote
    (ensures_ok_bind hsecond (ensures_bind (ensures_imp
      (hlegs charged quote second hcharged hcount hquote hsecond) ?_ fun _ _ he => he)))))
  intro s m' hP
  obtain ⟨hcursor, hbenign⟩ := hrest s m' hP
  have hraise {α : Type} {x : Read α} (hx : Raises Benign x) : Raises (E · m') x :=
    fun e he => hbenign e (hx e he)
  have hconsumed : rejectIf (dyn ≠ 0 ∧ s.pos.cursor ≠ data.length)
      .invalidInstructionData = .ok () := failIf_eq_ok.mpr fun hc => hc.2 hcursor
  refine ensures_ok_bind hconsumed (ensures_currentLedger_bind ?_)
  refine ensures_lift_bind (hraise ((reports_checkUnspent _ _ _).raises (by decide)))
    fun _ _ => ?_
  refine ensures_lift_bind (hraise ((reports_checkUnspent _ _ _).raises (by decide)))
    fun _ _ => ?_
  refine ensures_lift_bind (hraise ((reports_feeSourceBalance _ _ _).raises (by decide)))
    fun _ _ => ?_
  refine ensures_lift_bind (hraise ((reports_validateSpend _ _ _ _ _).raises (by decide)))
    fun _ _ => ?_
  refine ensures_lift_bind (hraise ((reports_outputBalance _ _ _).raises (by decide)))
    fun _ _ => ?_
  exact ensures_lift (hraise (raises_failIf fun _ => by decide)) fun _ _ => ⟨s, hP⟩

end Program
