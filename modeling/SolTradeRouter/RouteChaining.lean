import SolTradeRouter.RouteSettlement

/-!
# Chaining legs by what was actually received

In a dynamic route every leg but the first spends what the leg before it
credited to an intermediate account: the increase of the account over the
snapshot taken before the legs, no more and no less. The amount is written
into eight bytes of the leg's data and nothing else of the data changes;
at the end each intermediate account is back at its snapshot, so what the
user held there before is never spent.

The programs called may do what they like with the accounts they can
write. `Runtime.KeepsReadonly` is the one thing the runtime enforces on
them: an account not passed writable keeps its balance.
-/

namespace Program

open Outcome Bytes

/-- **Read-only accounts keep their token balance** across a call. -/
def Runtime.KeepsReadonly (rt : Runtime) : Prop :=
  ∀ (n : ℕ) (call : CpiCall) (l l' : Ledger), rt.cpi n call l = .ok l' →
    ∀ account : AccountView,
      (∀ x ∈ call.metas, x.pubkey = account.address → x.isWritable = false) →
      tokenAmount l' account = tokenAmount l account

/-- **A stop between two legs**: the account the first credits and the
second debits, its snapshot, and the least it has to receive. -/
structure Hop where
  account : AccountView
  before : UInt64
  minimum : UInt64

namespace RouteFrame

/-- The stop after a leg. -/
def hop (f : RouteFrame) : ℕ → Option Hop
  | 0 => f.accounts.intermediate.map
      (⟨·, f.quoteBefore, f.header.intermediateMinOut⟩)
  | 1 => f.accounts.secondIntermediate.map
      (⟨·, f.secondIntermediateBefore, f.header.secondIntermediateMinOut⟩)
  | _ => none

end RouteFrame

/-- **What it means for a leg to spend a stop exactly**, between the ledger
`start` before the legs and the ledger `finish` after them. `prev` is the
call that credits the stop, `next` the one that debits it, and `leg` is the
latter as the instruction encodes it. -/
structure Chained (start finish : Ledger) (hop : Hop) (leg : ParsedLeg AccountView)
    (prev next : CpiEvent) : Prop where
  snapshot : tokenAmount start hop.account = .ok hop.before
  restored : tokenAmount finish hop.account = .ok hop.before
  program : next.call.programId = leg.programId
  spends : ∃ (layout : DynamicSecondLeg) (after amount : UInt64),
    dynamicSecondLeg leg.programId leg.data = .ok layout
    ∧ tokenAmount prev.after hop.account = .ok after
    ∧ hop.before.toNat + amount.toNat = after.toNat
    ∧ hop.minimum ≤ amount ∧ 0 < amount
    ∧ layout.amountOffset + 8 ≤ leg.data.length
    ∧ next.call.data.length = leg.data.length
    ∧ ∀ i, next.call.data[i]? =
        if layout.amountOffset ≤ i ∧ i < layout.amountOffset + 8
        then (ofUInt64 amount)[i - layout.amountOffset]? else leg.data[i]?

/-! ## Metas -/

theorem writeMetas_ok {accs : List AccountView} {buf : List (Option AccountMeta)} {i : ℕ}
    (h : i + accs.length ≤ buf.length) :
    writeMetas accs i buf
      = .ok (buf.take i ++ accs.map (fun a => some a.toMeta)
        ++ buf.drop (i + accs.length)) := by
  induction accs generalizing i buf with
  | nil => simp [writeMetas]
  | cons a accs ih =>
    rw [List.length_cons] at h
    rw [writeMetas, if_pos (by omega), ih (by rw [List.length_set]; omega),
      List.take_set, List.take_succ_eq_append_getElem (by omega),
      List.set_append_right _ _ (by rw [List.length_take]; omega),
      List.length_take, List.drop_set_of_lt (by omega)]
    simp [Nat.min_eq_left (show i ≤ buf.length by omega), Nat.add_comm 1, Nat.add_assoc]

/-- Entries that are all there are read as they are. -/
theorem mapM_id_map_some {α β : Type} (g : α → β) (xs : List α) :
    (xs.map (fun a => some (g a))).mapM id = some (xs.map g) := by
  induction xs with
  | nil => rfl
  | cons a xs ih =>
    rw [List.map_cons, List.mapM_cons, ih]
    rfl

/-- **A leg's metas are its accounts**, in order, when they fit the buffer. -/
theorem buildMetas_eq {accs : List AccountView} {n : ℕ} (hn : accs.length = n)
    (hmax : n ≤ maxLegAccounts) : buildMetas accs n = .ok (accs.map AccountView.toMeta) := by
  have hbuf : 0 + accs.length
      ≤ (List.replicate maxLegAccounts (none : Option AccountMeta)).length := by
    rw [List.length_replicate]
    omega
  have hslice : ∀ post, range? ([] ++ accs.map (fun a => some a.toMeta) ++ post) 0 n
      = some (accs.map (fun a => some a.toMeta)) :=
    fun post => range?_append [] _ post (by rw [List.length_map, hn, List.length_nil]; omega)
  unfold buildMetas
  rw [writeMetas_ok hbuf, ok_bind, List.take_zero, slice, hslice, orPanic_some, ok_bind,
    mapM_id_map_some, orPanic_some]

/-! ## The legs of a dynamic route -/

section

variable {f : RouteFrame} {l : Ledger} {k : ℕ}

/-- **After a leg that is not the last, the stop has received its amount.** -/
theorem quoteAfterLeg_hop (hdyn : f.dynamicIntermediates = 1 ∨ f.dynamicIntermediates = 2)
    (hk : k < f.dynamicIntermediates) {q amount : UInt64}
    (h : quoteAfterLeg l f k q = .ok amount) :
    ∃ hop after, f.hop k = some hop ∧ tokenAmount l hop.account = .ok after
      ∧ receivedQuote hop.before after hop.minimum = .ok amount := by
  have hdynamic : f.dynamic = true := by
    unfold RouteFrame.dynamic
    simp only [decide_eq_true_eq]
    omega
  unfold quoteAfterLeg at h
  rcases Nat.eq_zero_or_pos k with rfl | hpos
  · rw [if_pos ⟨hdynamic, rfl⟩] at h
    simp only [bind_eq_ok, okOr_eq_ok] at h
    obtain ⟨account, hacc, after, hafter, hreceived⟩ := h
    refine ⟨⟨account, f.quoteBefore, f.header.intermediateMinOut⟩, after, ?_, hafter,
      hreceived⟩
    rw [RouteFrame.hop, hacc, Option.map_some]
  · have hk1 : k = 1 := by omega
    have hthree : f.threeHop = true := by
      unfold RouteFrame.threeHop
      simp only [decide_eq_true_eq]
      omega
    subst hk1
    rw [if_neg (fun hc => absurd hc.2 (by decide)), if_pos ⟨hthree, rfl⟩] at h
    simp only [bind_eq_ok, okOr_eq_ok] at h
    obtain ⟨account, hacc, after, hafter, hreceived⟩ := h
    refine ⟨⟨account, f.secondIntermediateBefore, f.header.secondIntermediateMinOut⟩, after,
      ?_, hafter, hreceived⟩
    rw [RouteFrame.hop, hacc, Option.map_some]

/-- **A leg that is not the first is called with its data patched.** -/
theorem legInvokeData_patched
    (hdyn : f.dynamicIntermediates = 1 ∨ f.dynamicIntermediates = 2)
    (hlegs : f.header.numLegs = f.dynamicIntermediates + 1)
    (hk : k < f.dynamicIntermediates) {leg : ParsedLeg AccountView} {q : UInt64}
    {out : List UInt8} (h : legInvokeData l f (k + 1) leg q = .ok out) :
    ∃ layout, dynamicSecondLeg leg.programId leg.data = .ok layout
      ∧ patchSecondLegAmount leg.data q layout.amountOffset
        (List.replicate maxDynamicLegData 0) = .ok out := by
  rw [legInvokeData_eq (by omega)] at h
  split at h
  · simp only [middleLegData, bind_eq_ok] at h
    obtain ⟨_, -, _, -, _, -, layout, hlayout, _, -, _, -, _, -, hpatch⟩ := h
    exact ⟨layout, hlayout, hpatch⟩
  · rename_i hmiddle
    have hdynamic : f.dynamic = true := by
      unfold RouteFrame.dynamic
      simp only [decide_eq_true_eq]
      omega
    have hlast : k + 1 = f.header.numLegs - 1 := by
      by_contra hc
      refine hmiddle ⟨?_, by omega⟩
      unfold RouteFrame.threeHop
      simp only [decide_eq_true_eq]
      omega
    rw [if_pos ⟨hdynamic, hlast⟩] at h
    simp only [lastLegData, bind_eq_ok] at h
    obtain ⟨_, -, layout, hlayout, _, -, _, -, _, -, hpatch⟩ := h
    exact ⟨layout, hlayout, hpatch⟩

/-- **The first leg of a three-hop route cannot write the second stop.** -/
theorem legInvokeData_first_readonly (hthree : f.dynamicIntermediates = 2)
    (hlegs : f.header.numLegs = 3) {leg : ParsedLeg AccountView} {q : UInt64}
    {out : List UInt8} (h : legInvokeData l f 0 leg q = .ok out) {second : AccountView}
    (hsecond : f.accounts.secondIntermediate = some second) :
    ∀ x ∈ leg.accounts.map AccountView.toMeta, x.pubkey = second.address →
      x.isWritable = false := by
  have hdynamic : f.dynamic = true := by simp [RouteFrame.dynamic, hthree]
  have hthreeHop : f.threeHop = true := by simp [RouteFrame.threeHop, hthree]
  rw [legInvokeData_eq (by omega), if_neg (fun hc => absurd hc.2 (by decide)),
    if_neg (fun hc => absurd hc.2 (by rw [hlegs]; decide)), if_pos ⟨hdynamic, rfl⟩] at h
  simp only [checkFirstLeg, bind_eq_ok, failIf_eq_ok] at h
  obtain ⟨_, ⟨_, -, hwrites⟩, -⟩ := h
  rw [hthreeHop, hsecond] at hwrites
  simp only [Bool.true_and, Option.any_some, Bool.or_eq_true, not_or, Bool.not_eq_true,
    writes, List.any_eq_false, Bool.and_eq_true, decide_eq_true_eq, not_and] at hwrites
  intro x hx haddr
  obtain ⟨acc, hacc, rfl⟩ := List.mem_map.mp hx
  simpa using hwrites.2 acc hacc haddr

end

/-! ## The dynamic route -/

/-- The header of a dynamic route: one leg more than stops, a token fee,
exact input, positive minimums. -/
theorem checkHeader_dynamic {h : RouteHeader} {dyn : ℕ} (hdyn : dyn ≠ 0)
    (hok : checkHeader h dyn = .ok ()) :
    h.numLegs = dyn + 1 ∧ h.feeAssetByte = 1 ∧ h.intermediateMinOut ≠ 0
      ∧ (dyn = 2 → h.secondIntermediateMinOut ≠ 0) := by
  simp only [checkHeader, bind_eq_ok, failIf_eq_ok, hdyn, ne_eq, not_false_eq_true,
    true_and, not_or, not_not, not_and] at hok
  obtain ⟨_, -, _, -, hlegs, hasset, hmin, hsecond, -⟩ := hok
  exact ⟨hlegs, hasset, hmin, hsecond⟩

/-- A snapshot is the balance of its account. -/
theorem intermediateSnapshot_some {l : Ledger} {a : RouteAccounts AccountView}
    {o : Option AccountView} {account : AccountView} {n : UInt64}
    (h : intermediateSnapshot l a o (some account) = .ok n) :
    tokenAmount l account = .ok n := by
  simp only [intermediateSnapshot, bind_eq_ok] at h
  obtain ⟨_, -, _, -, h⟩ := h
  exact h

theorem checkUnspent_some {l : Ledger} {before : UInt64} {account : AccountView}
    (h : checkUnspent l before (some account) = .ok ()) :
    tokenAmount l account = .ok before := by
  simp only [checkUnspent, bind_eq_ok, failIf_eq_ok, ne_eq, not_not] at h
  obtain ⟨n, hn, rfl⟩ := h
  exact hn

namespace RouteRun

variable [Pda] {rt : Runtime} {programId : Address} {accounts : List AccountView}
  {data : List UInt8} {dyn : ℕ} {m m' : Machine}

/-- What stays fixed while the legs of the run are called. -/
def frame (r : RouteRun rt programId accounts data dyn m m') : RouteFrame :=
  ⟨r.header, dyn, r.a, r.quote, r.second⟩

/-- The parser's position before the first leg. -/
def start (_ : RouteRun rt programId accounts data dyn m m') : LegCursor :=
  ⟨routeHeaderLen + 8 * dyn, 0⟩

/-- **A stop is back at its snapshot at the end**, and its minimum is
positive. -/
theorem hop_spec (r : RouteRun rt programId accounts data dyn m m')
    (hdyn : dyn = 1 ∨ dyn = 2) {k : ℕ} (hk : k < dyn) {hop : Hop}
    (hhop : r.frame.hop k = some hop) :
    tokenAmount r.charged.ledger hop.account = .ok hop.before
      ∧ tokenAmount m'.ledger hop.account = .ok hop.before ∧ hop.minimum ≠ 0 := by
  obtain ⟨-, -, hmin, hmin₂⟩ := checkHeader_dynamic (by omega) r.header_ok
  rcases Nat.eq_zero_or_pos k with rfl | hpos
  · obtain ⟨account, hacc, rfl⟩ := Option.map_eq_some_iff.mp hhop
    have hquote := r.quote_eq
    have hunspent := r.quote_unspent
    rw [show r.a.intermediate = some account from hacc] at hunspent
    rw [quoteBefore, show r.a.intermediate = some account from hacc] at hquote
    exact ⟨intermediateSnapshot_some hquote, checkUnspent_some hunspent, hmin⟩
  · have hk1 : k = 1 := by omega
    subst hk1
    obtain ⟨account, hacc, rfl⟩ := Option.map_eq_some_iff.mp hhop
    have hsecond := r.second_eq
    have hunspent := r.second_unspent
    rw [show r.a.secondIntermediate = some account from hacc] at hunspent
    rw [secondIntermediateBefore, show r.a.secondIntermediate = some account from hacc]
      at hsecond
    exact ⟨intermediateSnapshot_some hsecond, checkUnspent_some hunspent, hmin₂ (by omega)⟩

/-- The loop of the run starts where its record says. -/
theorem path (r : RouteRun rt programId accounts data dyn m m') :
    Nonempty (LegsPath rt data r.frame r.header.numLegs 0 ⟨r.start, 0⟩ r.charged
      r.final m') :=
  runLegs_path r.legs

/-- **Each leg but the first spends the stop before it exactly.** -/
theorem chained (r : RouteRun rt programId accounts data dyn m m')
    (hdyn : dyn = 1 ∨ dyn = 2)
    (p : LegsPath rt data r.frame r.header.numLegs 0 ⟨r.start, 0⟩ r.charged r.final m')
    {k : ℕ} (hk : k < dyn) :
    ∃ hop leg prev next, r.frame.hop k = some hop ∧ p.legs[k + 1]? = some leg
      ∧ p.events[k]? = some prev ∧ p.events[k + 1]? = some next
      ∧ Chained r.charged.ledger m'.ledger hop leg prev next := by
  obtain ⟨hlegs, -, -, -⟩ := checkHeader_dynamic (by omega) r.header_ok
  obtain ⟨prev, -, hprev⟩ := p.run k (by omega)
  obtain ⟨next, hleg, hnext⟩ := p.run (k + 1) (by omega)
  have hquote := prev.quote_eq
  have hdata := next.data_eq
  simp only [Nat.zero_add] at hquote hdata
  obtain ⟨hop, after, hhop, hafter, hreceived⟩ :=
    quoteAfterLeg_hop (f := r.frame) hdyn hk hquote
  obtain ⟨layout, hlayout, hpatch⟩ :=
    legInvokeData_patched (f := r.frame) hdyn hlegs hk hdata
  obtain ⟨hsnapshot, hrestored, hmin⟩ := r.hop_spec hdyn hk hhop
  obtain ⟨hle, hamount, hreached⟩ := receivedQuote_eq_ok.mp hreceived
  obtain ⟨kind, hkind, hkindLayout⟩ := dynamicSecondLeg_eq_ok.mp hlayout
  have hfit : layout.amountOffset + 8 ≤ next.leg.data.length := by
    rw [hkindLayout]
    exact hkind.2.amount_fits.1
  obtain ⟨hlen, hbytes⟩ := patchSecondLegAmount_eq_ok hpatch hfit
  refine ⟨hop, next.leg, prev.event, next.event, hhop, hleg, hprev, hnext,
    ⟨hsnapshot, hrestored, rfl, layout, after, (p.loops (k + 1)).quoteReceived, hlayout,
      hafter, ?_, hreached, ?_, hfit, hlen, hbytes⟩⟩
  · rw [hamount, UInt64.toNat_sub_of_le _ _ hle]
    rw [UInt64.le_iff_toNat_le] at hle
    omega
  · exact UInt64.lt_of_lt_of_le (UInt64.pos_iff_ne_zero.mpr hmin) hreached

/-- **The second stop of a three-hop route is untouched by the first leg.** -/
theorem second_after_first (r : RouteRun rt programId accounts data dyn m m')
    (hrt : rt.KeepsReadonly) (hthree : dyn = 2)
    (p : LegsPath rt data r.frame r.header.numLegs 0 ⟨r.start, 0⟩ r.charged r.final m')
    {second : AccountView} (hsecond : r.a.secondIntermediate = some second) :
    ∃ first, p.events[0]? = some first
      ∧ tokenAmount first.after second = .ok r.second := by
  obtain ⟨hlegs, -, -, -⟩ := checkHeader_dynamic (by omega) r.header_ok
  obtain ⟨first, -, hfirst⟩ := p.run 0 (by omega)
  refine ⟨first.event, hfirst, ?_⟩
  have hparse := parseLeg_eq_ok.mp first.parsed
  have hmetas : first.metas = first.leg.accounts.map AccountView.toMeta := by
    have h := buildMetas_eq hparse.length_accounts hparse.count_le
    exact Except.ok.inj (first.metas_eq.symm.trans h)
  have hlegs₃ : r.header.numLegs = 3 := by omega
  have hreadonly := legInvokeData_first_readonly (f := r.frame) hthree hlegs₃
    first.data_eq hsecond
  rw [← hmetas] at hreadonly
  have hkeeps := hrt _ _ _ _ first.cpi_eq second hreadonly
  show tokenAmount (p.machines 1).ledger second = .ok r.second
  rw [hkeeps, p.machines_zero]
  have h := r.second_eq
  rw [secondIntermediateBefore, hsecond] at h
  exact intermediateSnapshot_some h

end RouteRun

/-- **Dynamic routes chain exactly.** In a dynamic route that returns, each
leg after the first is called with the increase of the stop before it
written at its amount offset, the increase is positive and reaches the
header's minimum, and every stop ends at its snapshot; with three legs, the
first leaves the second stop alone. The input is exact: the fee source
loses exactly the header's amount of tokens. -/
theorem dynamic_route_chains [Pda] {rt : Runtime} {programId : Address}
    {accounts : List AccountView} {data : List UInt8} {dyn : ℕ} {m m' : Machine}
    (hrt : rt.KeepsReadonly) (hdyn : dyn = 1 ∨ dyn = 2)
    (h : processInner rt programId accounts data dyn m = .ok () m') :
    ∃ (r : RouteRun rt programId accounts data dyn m m')
      (legs : List (ParsedLeg AccountView)) (events : List CpiEvent),
      parseLegs data r.a.remaining (dyn + 1) r.start = .ok (legs, r.final.pos)
      ∧ r.final.pos.cursor = data.length
      ∧ m'.trace = r.charged.trace ++ events
      ∧ legs.length = dyn + 1 ∧ events.length = dyn + 1
      ∧ (∀ k < dyn, ∃ hop leg prev next, r.frame.hop k = some hop
          ∧ legs[k + 1]? = some leg ∧ events[k]? = some prev
          ∧ events[k + 1]? = some next
          ∧ Chained r.charged.ledger m'.ledger hop leg prev next)
      ∧ (dyn = 2 → ∃ second first, r.a.secondIntermediate = some second
          ∧ events[0]? = some first ∧ tokenAmount first.after second = .ok r.second)
      ∧ r.header.exactOut = false ∧ r.header.feeAsset = 1
      ∧ tokenAmount m.ledger r.a.feeSource = .ok r.sourceBefore
      ∧ tokenAmount m'.ledger r.a.feeSource = .ok r.sourceAfter
      ∧ r.sourceAfter.toNat + r.header.amountIn.toNat = r.sourceBefore.toNat := by
  obtain ⟨r⟩ := processInner_eq_ok.mp h
  obtain ⟨p⟩ := r.path
  obtain ⟨hlegs, hasset, -, -⟩ := checkHeader_dynamic (by omega) r.header_ok
  have hexact : r.header.exactOut = false := by
    rw [RouteHeader.exactOut, hasset]
    decide
  have hfee : r.header.feeAsset = 1 := by
    rw [RouteHeader.feeAsset, hasset]
    decide
  have hbalance : ∀ l, feeSourceBalance l r.header.feeAsset r.a.feeSource
      = tokenAmount l r.a.feeSource := by
    intro l
    rw [hfee, feeSourceBalance, if_neg (by decide), if_pos rfl]
  obtain ⟨hle, hspent, -⟩ := validateSpend_eq_ok.mp r.spend_ok
  have hspent := hspent hexact
  rw [UInt64.toNat_sub_of_le _ _ hle] at hspent
  rw [UInt64.le_iff_toNat_le] at hle
  refine ⟨r, p.legs, p.events, by rw [← hlegs]; exact p.parsed, r.consumed (by omega),
    p.trace_eq, by rw [p.length_legs, hlegs], by rw [p.length_events, hlegs],
    fun k hk => r.chained hdyn p hk, fun hthree => ?_, hexact, hfee,
    by rw [← hbalance, r.sourceBefore_balance], by rw [← hbalance, r.sourceAfter_eq],
    by omega⟩
  obtain ⟨hop, _, _, _, hhop, -⟩ := r.chained hdyn p (show 1 < dyn by omega)
  obtain ⟨second, hsecond, -⟩ := Option.map_eq_some_iff.mp hhop
  obtain ⟨first, hfirst, hafter⟩ := r.second_after_first hrt hthree p hsecond
  exact ⟨second, first, hsecond, hfirst, hafter⟩

/-! ## A three-hop run -/

/-- A runtime whose calls rewrite the accounts passed writable, the `n`-th
call to what `table n` says. -/
def Runtime.scripted (table : ℕ → Ledger) : Runtime where
  cpi n call l := .ok fun address =>
    if call.metas.any (fun x => x.pubkey = address && x.isWritable) then table n address
    else l address
  createAccount _ _ := .error (.other 0)
  minimumBalance _ := .ok 0

theorem Runtime.scripted_keepsReadonly (table : ℕ → Ledger) :
    (Runtime.scripted table).KeepsReadonly := by
  intro n call l l' h account hreadonly
  have hany : call.metas.any
      (fun x => x.pubkey = account.address && x.isWritable) = false := by
    rw [List.any_eq_false]
    intro x hx hw
    rw [Bool.and_eq_true, decide_eq_true_eq] at hw
    rw [hreadonly x hx hw.1] at hw
    exact absurd hw.2 (by decide)
  cases h
  unfold tokenAmount AccountView.data
  simp only [hany, Bool.false_eq_true, if_false]

/-- The data of a token account. -/
def tokenData (mint owner : Pubkey) (amount : UInt64) : List UInt8 :=
  mint.bytes ++ owner.bytes ++ ofUInt64 amount

/-- The user's four token accounts, with the given balances, and a
configuration without a fee: the fee source, two stops and the output. -/
def hopLedger (source first second output : UInt64) : Ledger := fun address =>
  if address = sampleKey 4 then
    ⟨0, tokenProgramId, tokenData (sampleKey 14) (sampleKey 1) source⟩
  else if address = sampleKey 5 then
    ⟨0, tokenProgramId, tokenData (sampleKey 15) (sampleKey 1) output⟩
  else if address = sampleKey 6 then
    ⟨0, tokenProgramId, tokenData (sampleKey 16) (sampleKey 1) first⟩
  else if address = sampleKey 7 then
    ⟨0, tokenProgramId, tokenData (sampleKey 17) (sampleKey 1) second⟩
  else ⟨0, sampleKey 8, (RouterConfig.fresh (sampleKey 1) (sampleKey 3) 0 255).store []⟩

/-- The accounts of a CPMM swap from one token account to another. -/
def hopSwapAccounts (input output inputMint outputMint : UInt8) : List AccountView :=
  [⟨sampleKey 1, true, true⟩, ⟨sampleKey 0, false, false⟩, ⟨sampleKey 0, false, false⟩,
    ⟨sampleKey 0, false, true⟩, ⟨sampleKey input, false, true⟩,
    ⟨sampleKey output, false, true⟩, ⟨sampleKey 0, false, true⟩,
    ⟨sampleKey 0, false, true⟩, ⟨tokenProgramId, false, false⟩,
    ⟨tokenProgramId, false, false⟩, ⟨sampleKey inputMint, false, false⟩,
    ⟨sampleKey outputMint, false, false⟩]

def hopAccounts : List AccountView :=
  [⟨sampleKey 1, true, true⟩, ⟨sampleKey 2, false, false⟩, ⟨sampleKey 3, false, true⟩,
    ⟨sampleKey 4, false, true⟩, ⟨sampleKey 5, false, true⟩, ⟨tokenProgramId, false, false⟩,
    ⟨sampleKey 6, false, true⟩, ⟨sampleKey 7, false, true⟩,
    ⟨sampleKey 4, false, true⟩, ⟨sampleKey 6, false, true⟩]
    ++ hopSwapAccounts 6 7 16 17 ++ hopSwapAccounts 7 5 17 15

/-- A CPMM leg with a zero input, to be patched. -/
def hopSwapLeg : List UInt8 :=
  raydiumCpmmProgramId.bytes ++ [12] ++ ofUInt16 24
    ++ (cpmmSwapBaseIn ++ ofUInt64 0 ++ ofUInt64 1)

/-- Input 100, minimums 40, 30 and 20. -/
def hopData : List UInt8 :=
  ofUInt64 100 ++ ofUInt64 20 ++ [1, 3] ++ (sampleKey 15).bytes ++ ofUInt64 40 ++ ofUInt64 30
    ++ ((sampleKey 9).bytes ++ [2] ++ ofUInt16 0) ++ hopSwapLeg ++ hopSwapLeg

/-- Each leg empties what the one before it credited, down to the five and
three tokens the stops held before. -/
def hopRuntime : Runtime :=
  Runtime.scripted fun
    | 0 => hopLedger 900 55 3 0
    | 1 => hopLedger 900 5 43 0
    | _ => hopLedger 900 5 3 30

/-- The route from 1000 tokens and stops holding 5 and 3 returns. -/
theorem hop_run : ∃ m', @processInner samplePda hopRuntime (sampleKey 8) hopAccounts hopData 2
    ⟨hopLedger 1000 5 3 0, []⟩ = .ok () m' := by
  obtain ⟨_, m', h⟩ := returned_iff.mp (show returned (@processInner samplePda hopRuntime
    (sampleKey 8) hopAccounts hopData 2 ⟨hopLedger 1000 5 3 0, []⟩) = true by decide +kernel)
  exact ⟨m', h⟩

/-- `dynamic_route_chains` on that run. -/
theorem hop_chains : letI := samplePda
    ∃ m', ∃ r : RouteRun hopRuntime (sampleKey 8) hopAccounts hopData 2
      ⟨hopLedger 1000 5 3 0, []⟩ m', r.final.pos.cursor = hopData.length := by
  obtain ⟨m', hrun⟩ := hop_run
  obtain ⟨r, _, _, -, hconsumed, -⟩ := @dynamic_route_chains samplePda _ _ _ _ _ _ _
    (Runtime.scripted_keepsReadonly _) (.inr rfl) hrun
  exact ⟨m', r, hconsumed⟩

end Program
