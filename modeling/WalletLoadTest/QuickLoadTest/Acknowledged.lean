import WalletLoadTest.Python.PoolExchanges
import WalletLoadTest.Python.Tally
import WalletLoadTest.QuickLoadTest.Modes

/-!
# Success counters count what the service acknowledged

`perform_operation` makes at most one request, on the route of its kind, and
reports a success exactly when that request got a response whose
`raise_for_status()` passes: a transfer with fewer than two wallets, a
`random.choice` on no wallets and a client exception all count as failures, and
so does any status in `[400, 600)`, but a `1xx` or `3xx` counts as a success.
So during the operations phase the success counter of each kind grows by the
number of requests on its route that the service acknowledged: in the
sequential loop, and with `--fast` whatever the interleaving of the pool's
threads and the order `as_completed` yields the futures in, since the pool's
exchanges are, as a multiset, those of its consumed futures.
-/

namespace WalletLoadTest.QuickLoadTest

open Python Script

def acknowledged : Reply → Bool
  | .ok response => response.raiseForStatus.toBool
  | .error _ => false

def OpType.endpoint : OpType → Endpoint
  | .credit => .credit
  | .debit => .debit
  | .transfer => .transfer

theorem OpType.endpoint_eq_iff {k k' : OpType} : k.endpoint = k'.endpoint ↔ k = k' := by
  cases k <;> cases k' <;> decide

/-- The exchanges of `es` on the route of `k` that the service acknowledged. -/
def acknowledgedOn (k : OpType) (es : List Exchange) : Nat :=
  es.countP fun e => decide (e.1.endpoint = k.endpoint) && acknowledged e.2

def AttemptReports (opType : OpType) (r : Except Exc OpResult) (o : Option Exchange) : Prop :=
  o.all (fun e => e.1.endpoint = opType.endpoint) ∧
    match r with
    | .ok result => result.type = opType ∧ result.success = o.any (acknowledged ·.2)
    | .error _ => o.any (acknowledged ·.2) = false

def Reports (opType : OpType) (result : OpResult) (o : Option Exchange) : Prop :=
  AttemptReports opType (.ok result) o

/-! ## The per-item functions -/

theorem singleWalletOp_reports {kind : OpType} {endpoint : Endpoint} (maxAmount : Nat)
    (description : String) (walletIds : List Json) (hk : endpoint = kind.endpoint) :
    (singleWalletOp kind endpoint maxAmount description walletIds).run.Guarded FirstRequest
      (AttemptReports kind) none := by
  subst hk
  have herr : ∀ e, AttemptReports kind (.error e) none := fun _ => ⟨rfl, rfl⟩
  refine Py.run_guarded_bind_silent (Py.sends_choice _) herr fun _ => ?_
  refine Py.run_guarded_bind_silent (Py.sends_lift fun _ => trivial) herr fun amount => ?_
  refine Py.run_guarded_bind_silent (Py.sends_lift fun _ _ => trivial) herr fun _ => ?_
  refine Py.run_guarded_bind_request rfl (fun _ => ⟨by simp [OpType.endpoint], rfl⟩) fun _ => ?_
  refine Py.run_guarded_bind_ofExcept (fun _ he => ⟨by simp [OpType.endpoint], by simp [acknowledged, he, Except.toBool]⟩)
    fun _ he => ⟨by simp [OpType.endpoint], rfl, by simp [acknowledged, he, Except.toBool]⟩

theorem transferOp_reports (walletIds : List Json) :
    (transferOp walletIds).run.Guarded FirstRequest (AttemptReports .transfer) none := by
  unfold transferOp
  split
  · exact ⟨rfl, rfl, rfl⟩
  have herr : ∀ e, AttemptReports .transfer (.error e) none := fun _ => ⟨rfl, rfl⟩
  refine Py.run_guarded_bind_silent (Py.sends_choice _) herr fun _ => ?_
  refine Py.run_guarded_bind_silent (Py.sends_choice _) herr fun _ => ?_
  refine Py.run_guarded_bind_silent (Py.sends_lift fun _ => trivial) herr fun amount => ?_
  refine Py.run_guarded_bind_silent (Py.sends_lift fun _ _ => trivial) herr fun _ => ?_
  refine Py.run_guarded_bind_request rfl (fun _ => ⟨by simp [OpType.endpoint], rfl⟩) fun _ => ?_
  refine Py.run_guarded_bind_ofExcept (fun _ he => ⟨by simp [OpType.endpoint], by simp [acknowledged, he, Except.toBool]⟩)
    fun _ he => ⟨by simp [OpType.endpoint], rfl, by simp [acknowledged, he, Except.toBool]⟩

theorem performOperation_atMostOnce (opType : OpType) (walletIds : List Json) :
    (performOperation opType walletIds).AtMostOnce (Reports opType) := by
  have h : Proc.Guarded FirstRequest (AttemptReports opType) none (match opType with
      | .credit => singleWalletOp .credit .credit 500 "Load test credit" walletIds
      | .debit => singleWalletOp .debit .debit 200 "Load test debit" walletIds
      | .transfer => transferOp walletIds).run := by
    cases opType
    · exact singleWalletOp_reports _ _ _ rfl
    · exact singleWalletOp_reports _ _ _ rfl
    · exact transferOp_reports _
  refine Proc.Guarded.bind h fun r l hr => ?_
  rcases r with e | r
  · exact ⟨hr.1, rfl, hr.2.symm⟩
  · exact hr

/-! ## Counting -/

theorem Reports.acknowledgedOn_toList {t : OpType} {result : OpResult} {o : Option Exchange}
    (h : Reports t result o) (k : OpType) :
    acknowledgedOn k o.toList = if result.outcome = (k, true) then 1 else 0 := by
  obtain ⟨hroute, htype, hsuccess⟩ := h
  subst htype
  rcases o with _ | ⟨req, reply⟩
  · simp [acknowledgedOn, OpResult.outcome, hsuccess]
  · simp only [Option.all_some, decide_eq_true_eq] at hroute
    simp [acknowledgedOn, List.countP_cons, OpResult.outcome, hsuccess, hroute, OpType.endpoint_eq_iff,
      Prod.ext_iff]

theorem acknowledgedOn_append (k : OpType) (es es' : List Exchange) :
    acknowledgedOn k (es ++ es') = acknowledgedOn k es + acknowledgedOn k es' :=
  List.countP_append _ _ _

theorem acknowledgedOn_reduceOption (k : OpType) :
    ∀ calls : List ((OpType × OpResult) × Option Exchange), (∀ p ∈ calls, Reports p.1.1 p.1.2 p.2) →
      acknowledgedOn k (calls.map Prod.snd).reduceOption =
        Stats.outcomeCount (calls.map fun p => p.1.2) (k, true)
  | [], _ => rfl
  | ((t, result), o) :: calls, h => by
    have hreduce : (o :: calls.map Prod.snd).reduceOption =
        o.toList ++ (calls.map Prod.snd).reduceOption := by
      cases o <;> simp
    rw [List.map_cons, hreduce, acknowledgedOn_append, (h _ (List.mem_cons_self _ _)).acknowledgedOn_toList,
      acknowledgedOn_reduceOption k calls fun p hp => h p (List.mem_cons_of_mem _ hp)]
    simp only [Stats.outcomeCount, List.map_cons, List.countP_cons, decide_eq_true_eq]
    omega

/-! ## The operations phase, in both modes -/

section Operations

variable {env : Env}

theorem operationsSequential_calls {walletIds : List Json}
    {Q : OpType → OpResult → Option Exchange → Prop}
    (hQ : ∀ opType, (performOperation opType walletIds).AtMostOnce (Q opType)) (env : Env) :
    ∀ (n : Nat) (g : Globals) (w : World), g.createdWallets = walletIds →
      ∃ calls : List ((OpType × OpResult) × Option Exchange), calls.length = n ∧
        (∀ p ∈ calls, Q p.1.1 p.1.2 p.2) ∧
        ((operationsSequential n).exec env g w).1 =
          (.ok (calls.map Prod.fst), { g with stats := g.stats.tally (calls.map fun p => p.1.2) }) ∧
        ((operationsSequential n).exec env g w).2.exchanges = w.exchanges ++ (calls.map Prod.snd).reduceOption
  | 0, _, _, _ => ⟨[], rfl, List.forall_mem_nil _, rfl, (List.append_nil _).symm⟩
  | n + 1, g, w, hg => by
    subst hg
    rw [operationsSequential, exec_bind, exec_liftProc]
    dsimp only
    rw [exec_bind, exec_get]
    dsimp only
    rw [exec_bind, exec_liftProc]
    dsimp only
    rw [exec_bind, recordOperation, exec_modify]
    dsimp only
    rw [exec_bind]
    have hchoose : (chooseOperation.run env w).2.exchanges = w.exchanges :=
      Proc.exchanges_run_of_silent (choiceOf_sends _ _ _) env w
    generalize chooseOperation.run env w = c at hchoose ⊢
    obtain ⟨opType, w₁⟩ := c
    obtain ⟨o, hop, hq⟩ := (hQ opType).run env w₁
    generalize (performOperation opType g.createdWallets).run env w₁ = p at hop hq ⊢
    obtain ⟨result, w₂⟩ := p
    obtain ⟨calls, hlen, hcalls, hexec, hw⟩ := operationsSequential_calls hQ env n
      { g with stats := g.stats.record result.type result.success } w₂ rfl
    generalize (operationsSequential n).exec env _ w₂ = q at hexec hw ⊢
    obtain ⟨⟨r, g'⟩, w₃⟩ := q
    obtain ⟨rfl, rfl⟩ := Prod.mk.inj hexec
    refine ⟨((opType, result), o) :: calls, by rw [List.length_cons, hlen],
      List.forall_mem_cons.2 ⟨hq, hcalls⟩, rfl, ?_⟩
    dsimp only [exec_pure] at hchoose hop hw ⊢
    rw [hw, hop, hchoose, List.append_assoc]
    cases o <;> rfl

theorem operationsSequential_acknowledged (env : Env) (n : Nat) (g₀ : Globals) (w : World) :
    ∃ new, ((operationsSequential n).exec env g₀ w).2.exchanges = w.exchanges ++ new ∧
      new.length ≤ n ∧ ∀ k, (((operationsSequential n).exec env g₀ w).1.2.stats.get k).success =
        (g₀.stats.get k).success + acknowledgedOn k new := by
  obtain ⟨calls, hlen, hreports, hexec, hw⟩ :=
    operationsSequential_calls (fun t => performOperation_atMostOnce t g₀.createdWallets) env n g₀ w rfl
  refine ⟨_, hw, ?_, fun k => ?_⟩
  · simpa [hlen] using List.reduceOption_length_le (calls.map Prod.snd)
  · rw [hexec]
    dsimp only
    rw [Stats.get_tally, acknowledgedOn_reduceOption k calls hreports]

theorem operationsExecutor_atMostOnce (workers : Nat) (walletIds : List Json) (i : Nat) :
    ((operationsExecutor workers walletIds).submit i).Sends (fun _ => False) ∧
      ((operationsExecutor workers walletIds).submit i).Always fun p => p.2.AtMostOnce (Reports p.1) :=
  ⟨fun _ => trivial, fun _ => performOperation_atMostOnce _ walletIds⟩

theorem operationsPool_acknowledged {workers n : Nat} {walletIds : List Json} {g₀ : Globals}
    {w : World} {s : Pool OpType OpResult Globals}
    (hrun : Pool.Runs env (operationsExecutor workers walletIds) (Pool.init n g₀ w) s)
    (hfin : s.Finished) :
    ∃ new, s.world.exchanges = w.exchanges ++ new ∧ new.length ≤ n ∧
      ∀ k, (s.globals.stats.get k).success = (g₀.stats.get k).success + acknowledgedOn k new := by
  obtain ⟨hmain, hperm, hlen, -, hglobals⟩ := operationsPool_spec hrun hfin
  obtain ⟨calls, hcalls, hreports, new, hw, hnew⟩ :=
    (hrun.exchanged (operationsExecutor_atMostOnce workers walletIds) fun _ => sends_modify _).finished hfin
  rw [hfin.2.2.2.resolve_right (not_not.2 hmain), List.nil_append] at hcalls
  refine ⟨new, hw, ?_, fun k => ?_⟩
  · calc new.length = (calls.map Prod.snd).reduceOption.length := hnew.length_eq
      _ ≤ (calls.map Prod.fst).length := by simpa using List.reduceOption_length_le (calls.map Prod.snd)
      _ = n := by rw [hcalls, ← hlen, ← hperm.length_eq, List.length_map]
  · have hack : acknowledgedOn k new = Stats.outcomeCount (s.collected.map Prod.snd) (k, true) := by
      rw [acknowledgedOn, hnew.countP_eq, ← acknowledgedOn, acknowledgedOn_reduceOption k calls hreports,
        ← hcalls, List.map_map]
      rfl
    rw [hglobals, Stats.get_tally, hack]

end Operations

/-! ## Whole runs of `main()`

Wallet creation posts to `/wallets` and the ledger report reads ledgers: neither
is an operation's route, and neither moves an operation counter. -/

def successes (g : Globals) (k : OpType) : Nat := (g.stats.get k).success

def acknowledgedFor (k : OpType) (e : Exchange) : Bool :=
  decide (e.1.endpoint = k.endpoint) && acknowledged e.2

theorem acknowledgedFor_eq_false {e : Exchange}
    (h : e.1.endpoint = .createWallet ∨ e.1.endpoint = .getLedger) (k : OpType) :
    acknowledgedFor k e = false := by
  rcases h with h | h <;> cases k <;> simp [acknowledgedFor, h, OpType.endpoint]

def CreateRequest (o : Option Exchange) : Prop := ∃ e, o = some e ∧ e.1.endpoint = .createWallet

theorem createWallet_once (idx : Nat) : (createWallet idx).AtMostOnce fun _ => CreateRequest := by
  refine Proc.Guarded.bind_silent (fun _ _ => trivial) fun _ => ?_
  refine Proc.Guarded.bind_silent (fun _ _ => trivial) fun _ => ?_
  refine Proc.Guarded.bind_silent (fun _ => trivial) fun _ => ?_
  refine Proc.Guarded.bind (R := fun _ => CreateRequest) ?_ fun r _ h => by rcases r with _ | _ <;> exact h
  refine Py.run_guarded_bind_lift (fun _ _ => trivial) fun _ => ?_
  exact Py.run_guarded_bind_request rfl (fun _ => ⟨_, rfl, rfl⟩) fun _ =>
    Py.run_guarded_bind_ofExcept (fun _ _ => ⟨_, rfl, rfl⟩) fun _ _ => ⟨_, rfl, rfl⟩

theorem CreateRequest.uncounted {o : Option Exchange} (h : CreateRequest o) :
    ∀ e ∈ o.toList, ∀ k, acknowledgedFor k e = false := by
  obtain ⟨e, rfl, he⟩ := h
  intro e' he'
  rw [List.mem_singleton.1 he']
  exact acknowledgedFor_eq_false (.inl he)

theorem recordCreation_silent (result : CreateResult) : Sends (fun _ => False) (recordCreation result) := by
  cases result with
  | ok data => exact (sends_evalExpr _).bind fun _ => (sends_modify _).bind fun _ => sends_modify _
  | failed => exact sends_modify _

theorem recordCreation_keeps_successes (g₀ : Globals) (result : CreateResult) :
    Spec (fun g => ∀ k, successes g k = successes g₀ k) (recordCreation result)
      (fun _ g => ∀ k, successes g k = successes g₀ k) fun _ g => ∀ k, successes g k = successes g₀ k := by
  have hwallets : ∀ (g : Globals) (c : Counter), (∀ k, successes g k = successes g₀ k) →
      ∀ k, successes { g with stats := { g.stats with wallets := c } } k = successes g₀ k :=
    fun g _ h k => by rw [← h k]; cases k <;> rfl
  cases result with
  | ok data =>
    refine Spec.bind (Spec.evalExpr (fun _ _ _ h => h) fun _ _ _ h => h) fun _ => ?_
    exact Spec.bind (Spec.modifyState fun _ h => h) fun _ => Spec.modifyState fun g => hwallets g _
  | failed => exact Spec.modifyState fun g => hwallets g _

/-! ### The sequential mode -/

theorem liftProc_createWallet_tracks (idx : Nat) :
    Tracks successes acknowledgedFor (liftProc (createWallet idx)) := fun env g w => by
  rw [exec_liftProc]
  obtain ⟨o, hw, ho⟩ := (createWallet_once idx).run env w
  exact .of_uncounted hw ho.uncounted fun _ => rfl

theorem creationSequential_tracks (wallets : Nat) :
    Tracks successes acknowledgedFor (creationSequential wallets) :=
  Tracks.forM (fun i => (liftProc_createWallet_tracks i).bind fun result =>
    tracks_of_spec (recordCreation_silent result) (recordCreation_keeps_successes · result)) _

theorem operationsSequential_tracks (n : Nat) :
    Tracks successes acknowledgedFor (operationsSequential n) := fun env g w =>
  let ⟨new, hw, _, hk⟩ := operationsSequential_acknowledged env n g w
  ⟨new, hw, hk⟩

theorem finish_tracks (opsStart opsEnd : ℚ) : Tracks successes acknowledgedFor (finish opsStart opsEnd) := by
  refine (Tracks.bind_get fun g => ?_).bind fun _ => tracks_evalExpr _
  refine (tracks_liftPy_silent (sample_sends _ _ _)).bind fun sampleWallets =>
    Tracks.forM (fun walletId => ?_) _
  refine Tracks.tryExcept ?_ fun _ => (tracks_evalExpr _).discard
  refine (tracks_liftPy (R := (·.endpoint = .getLedger)) (Py.sends_request rfl)
    fun req h k _ => acknowledgedFor_eq_false (.inr h) k).bind fun _ => ?_
  exact (tracks_evalExpr _).bind fun _ => (tracks_evalExpr _).bind fun _ =>
    (tracks_evalExpr _).bind fun _ => (tracks_evalExpr _).bind fun _ => tracks_pure _

theorem mainSequential_tracks (args : Args) : Tracks successes acknowledgedFor (mainSequential args) := by
  refine (tracks_liftProc (time_sends _)).bind fun _ => (creationSequential_tracks _).bind fun _ => ?_
  refine (tracks_liftProc (time_sends _)).bind fun _ => Tracks.bind_get fun g => ?_
  split
  · exact tracks_pure _
  · exact (tracks_pure _).bind fun _ => (tracks_liftProc (time_sends _)).bind fun _ =>
      (operationsSequential_tracks _).bind fun _ => (tracks_liftProc (time_sends _)).bind fun _ =>
        (finish_tracks _ _).bind fun _ => tracks_pure _

/-! ### The parallel mode -/

section Pools

variable {env : Env} {workers n : Nat} {g₀ : Globals} {w : World}

theorem creationExecutor_atMostOnce (workers i : Nat) :
    ((creationExecutor workers).submit i).Sends (fun _ => False) ∧
      ((creationExecutor workers).submit i).Always fun p => p.2.AtMostOnce fun _ => CreateRequest :=
  ⟨trivial, createWallet_once i⟩

theorem creationPool_tallied {s : Pool Nat CreateResult Globals}
    (hrun : Pool.Runs env (creationExecutor workers) (Pool.init n g₀ w) s) (hfin : s.Finished) :
    Tallied successes acknowledgedFor g₀ w s.globals s.world := by
  obtain ⟨calls, -, hcalls, new, hw, hnew⟩ :=
    (hrun.exchanged (Q := fun _ _ => CreateRequest) (creationExecutor_atMostOnce workers)
      recordCreation_silent).finished hfin
  have hr := hrun.reachable (fun _ _ => True) (fun _ g => ∀ k, successes g k = successes g₀ k)
    (fun _ g => ∀ k, successes g k = successes g₀ k) (fun _ => Proc.always_true _)
    (fun _ _ b _ => recordCreation_keeps_successes g₀ b) fun _ => rfl
  have hk : ∀ k, successes s.globals k = successes g₀ k := by
    cases h : s.raised with
    | none => exact (hr.finished _ _ _ hfin h).2.2.2
    | some r => exact hr.raised _ _ _ h
  refine .of_uncounted hw (fun e he => ?_) hk
  obtain ⟨p, hp, hpe⟩ := List.mem_map.1 (List.reduceOption_mem_iff.1 (hnew.subset he))
  exact (hcalls p hp).uncounted e (by rw [hpe]; exact List.mem_singleton_self e)

theorem operationsPool_tallied {walletIds : List Json} {s : Pool OpType OpResult Globals}
    (hrun : Pool.Runs env (operationsExecutor workers walletIds) (Pool.init n g₀ w) s)
    (hfin : s.Finished) : Tallied successes acknowledgedFor g₀ w s.globals s.world :=
  let ⟨new, hw, _, hk⟩ := operationsPool_acknowledged hrun hfin
  ⟨new, hw, hk⟩

end Pools

theorem mainFast_tallied {env : Env} {args : Args} {w w' : World} {r : Except Raise Unit}
    {g : Globals} {results : List (OpType × OpResult)} (h : MainFast env args w r g results w') :
    Tallied successes acknowledgedFor Globals.initial w g w' := by
  have clock : ∀ (g : Globals) (w : World), Tallied successes acknowledgedFor g w g (w.readIn env).2 :=
    fun _ w => .of_silent (World.exchanges_readIn env w) fun _ => rfl
  cases h with
  | refused => exact clock _ w
  | creationRaised _ hrun hfin => exact (clock _ w).trans (creationPool_tallied hrun hfin)
  | noWallets _ hrun hfin => exact ((clock _ w).trans (creationPool_tallied hrun hfin)).trans (clock _ _)
  | operationsRaised _ hrun hfin _ _ hrun' hfin' =>
    exact ((((clock _ w).trans (creationPool_tallied hrun hfin)).trans (clock _ _)).trans
      (clock _ _)).trans (operationsPool_tallied hrun' hfin')
  | @completed s s' _ _ _ _ hrun hfin _ _ hrun' hfin' _ hfinish =>
    have hend := finish_tracks ((s.world.readIn env).2.readIn env).1 (s'.world.readIn env).1 env
      s'.globals (s'.world.readIn env).2
    rw [hfinish] at hend
    exact ((((((clock _ w).trans (creationPool_tallied hrun hfin)).trans (clock _ _)).trans
      (clock _ _)).trans (operationsPool_tallied hrun' hfin')).trans (clock _ _)).trans hend

theorem tallied_initial {w : World} {g : Globals} {w' : World}
    (h : Tallied successes acknowledgedFor Globals.initial w g w') :
    ∃ new, w'.exchanges = w.exchanges ++ new ∧ ∀ k, (g.stats.get k).success = acknowledgedOn k new :=
  let ⟨new, hw, hk⟩ := h
  ⟨new, hw, fun k => (hk k).trans (by cases k <;> exact Nat.zero_add _)⟩

/-- In both modes, however `main()` ends, the success counter of each kind of
operation in the final statistics is the number of requests on that kind's route
that the service acknowledged during the run; with `--fast`, whatever the
interleaving of the pools' threads. -/
theorem successes_count_acknowledged_requests (args : Args) :
    (∀ env w, ∃ new, ((mainSequential args).exec env Globals.initial w).2.exchanges = w.exchanges ++ new ∧
      ∀ k, (((mainSequential args).exec env Globals.initial w).1.2.stats.get k).success =
        acknowledgedOn k new) ∧
    ∀ {env : Env} {w w' : World} {r : Except Raise Unit} {g : Globals}
      {results : List (OpType × OpResult)}, MainFast env args w r g results w' →
        ∃ new, w'.exchanges = w.exchanges ++ new ∧ ∀ k, (g.stats.get k).success = acknowledgedOn k new :=
  ⟨fun env w => tallied_initial (mainSequential_tracks args env Globals.initial w),
    fun h => tallied_initial (mainFast_tallied h)⟩

/-- The service answers every request with `200` and the body `{"id": "a"}`;
every draw and clock reading is 0. -/
def acceptingService : Env :=
  ⟨fun _ => ⟨0, 0⟩, fun _ => 0, fun _ _ => .ok ⟨200, some (.obj [("id", .str "a")])⟩⟩

def oneWalletCreation : Pool Nat CreateResult Globals :=
  Pool.serial acceptingService (creationExecutor 1) 1 Globals.initial
    (World.start.readIn acceptingService).2

def oneOperation : Pool OpType OpResult Globals :=
  Pool.serial acceptingService (operationsExecutor 1 oneWalletCreation.globals.createdWallets) 1
    oneWalletCreation.globals
    ((oneWalletCreation.world.readIn acceptingService).2.readIn acceptingService).2

def oneOperationEnd : (Except Raise Unit × Globals) × World :=
  (finish ((oneWalletCreation.world.readIn acceptingService).2.readIn acceptingService).1
    (oneOperation.world.readIn acceptingService).1).exec acceptingService oneOperation.globals
    (oneOperation.world.readIn acceptingService).2

theorem successes_count_acknowledged_requests_one_operation :
    ∃ new, oneOperationEnd.2.exchanges = World.start.exchanges ++ new ∧
      ∀ k, (oneOperationEnd.1.2.stats.get k).success = acknowledgedOn k new :=
  (successes_count_acknowledged_requests ⟨1, 1, true, 1⟩).2
    (@MainFast.completed acceptingService _ World.start _ _ _ _ _ (by decide)
      (Pool.serial_runs (by decide) _ _ _).1 (Pool.serial_runs (by decide) _ _ _).2 rfl
      (fun h => List.cons_ne_nil (Json.str "a") []
        ((rfl : oneWalletCreation.globals.createdWallets = _).symm.trans h))
      (Pool.serial_runs (by decide) _ _ _).1 (Pool.serial_runs (by decide) _ _ _).2 rfl rfl)

end WalletLoadTest.QuickLoadTest
