import WalletLoadTest.QuickLoadTest.Main

/-!
# The requests of `quick_load_test.py`

Every request the script sends keeps the contract the script itself states: a
POST carries an `Idempotency-Key`, a 10 s timeout and the integer its branch
draws (`random.randint(100, 5000)` for an initial balance, `(10, 500)` for a
credit, `(10, 200)` for a debit, `(10, 300)` for a transfer); a transfer's
destination is not `==` its source; a ledger query carries no key and a 5 s
timeout; no request asks for a wallet.  This holds of every run, with any
service and any clock, and with `--fast` of every interleaving of the pool's
threads.
-/

namespace WalletLoadTest.QuickLoadTest

open Python Script

def AmountIn (key : String) (lo hi : Int) (req : Request) : Prop :=
  match req.body.lookup key with
  | some (.int n) => lo ≤ n ∧ n ≤ hi
  | _ => False

def PostWith (key : String) (lo hi : Int) (req : Request) : Prop :=
  req.idempotencyKey.isSome ∧ req.timeout = 10 ∧ AmountIn key lo hi req

def DistinctEnds (req : Request) : Prop :=
  match req.wallet, req.body.lookup "toWalletId" with
  | some src, some dst => dst.pyEq src = false
  | _, _ => False

/-- What the script sends on each route. -/
def Contract (req : Request) : Prop :=
  match req.endpoint with
  | .createWallet => PostWith "initialBalance" 100 5000 req
  | .credit => PostWith "amount" 10 500 req
  | .debit => PostWith "amount" 10 200 req
  | .transfer => PostWith "amount" 10 300 req ∧ DistinctEnds req
  | .getWallet => False
  | .getLedger => req.idempotencyKey = none ∧ req.timeout = 5

/-! ## The per-item functions -/

theorem createWallet_sends (idx : Nat) : (createWallet idx).Sends Contract := by
  refine Proc.Sends.bind' (fun _ _ => trivial) fun walletId => ?_
  refine Proc.Sends.bind' (fun _ _ => trivial) fun ownerId => ?_
  refine Proc.Sends.bind (fun _ => trivial) (randint_mem (by decide)) fun b hb => ?_
  refine Proc.Sends.bind' ?_ fun r => ?_
  · refine Py.Sends.bind' (Py.sends_lift fun _ _ => trivial) fun key => ?_
    refine Py.Sends.bind' (Py.sends_request ⟨rfl, rfl, ?_⟩) fun _ =>
      Py.Sends.bind' (Py.sends_ofExcept _) fun _ => Py.sends_ofExcept _
    simpa [AmountIn, List.lookup_cons] using hb
  · rcases r with _ | _ <;> exact trivial

theorem singleWalletOp_sends {kind : OpType} {endpoint : Endpoint} {maxAmount : Nat}
    {description : String} (walletIds : List Json) (hmax : 10 ≤ maxAmount)
    (h : ∀ wallet key (n : Nat), 10 ≤ n → n ≤ maxAmount → Contract
      ⟨endpoint, some wallet, some key, [("amount", .int n), ("description", .str description)], 10⟩) :
    (singleWalletOp kind endpoint maxAmount description walletIds).Sends Contract :=
  Py.Sends.bind' (Py.sends_choice _) fun wallet =>
    Py.Sends.bind (Py.sends_lift fun _ => trivial) (Py.returns_lift (randint_mem hmax)) fun n hn =>
      Py.Sends.bind' (Py.sends_lift fun _ _ => trivial) fun key =>
        Py.Sends.bind' (Py.sends_request (h wallet key n hn.1 hn.2)) fun _ =>
          Py.Sends.bind' (Py.sends_ofExcept _) fun _ => Py.sends_pure _

theorem transferOp_sends (walletIds : List Json) : (transferOp walletIds).Sends Contract := by
  unfold transferOp
  split
  · exact Py.sends_pure _
  refine Py.Sends.bind' (Py.sends_choice _) fun src => ?_
  refine Py.Sends.bind (Py.sends_choice _) (Py.returns_choice _) fun dst hdst => ?_
  have hne : dst.pyEq src = false := by simpa using (List.mem_filter.1 hdst).2
  refine Py.Sends.bind (Py.sends_lift fun _ => trivial) (Py.returns_lift (randint_mem (by decide)))
    fun n hn => Py.Sends.bind' (Py.sends_lift fun _ _ => trivial) fun key => ?_
  refine Py.Sends.bind' (Py.sends_request ⟨⟨rfl, rfl, ?_⟩, ?_⟩) fun _ =>
    Py.Sends.bind' (Py.sends_ofExcept _) fun _ => Py.sends_pure _
  · simpa [AmountIn, List.lookup_cons] using hn
  · simpa [DistinctEnds, List.lookup_cons] using hne

theorem performOperation_sends (opType : OpType) (walletIds : List Json) :
    (performOperation opType walletIds).Sends Contract := by
  refine Proc.Sends.bind' ?_ fun r => by rcases r with _ | _ <;> exact trivial
  cases opType with
  | credit =>
    exact singleWalletOp_sends walletIds (by decide) fun _ _ _ h₁ h₂ =>
      ⟨rfl, rfl, by simpa [AmountIn, List.lookup_cons] using ⟨h₁, h₂⟩⟩
  | debit =>
    exact singleWalletOp_sends walletIds (by decide) fun _ _ _ h₁ h₂ =>
      ⟨rfl, rfl, by simpa [AmountIn, List.lookup_cons] using ⟨h₁, h₂⟩⟩
  | transfer => exact transferOp_sends walletIds

/-! ## The main thread -/

theorem recordCreation_sends (result : CreateResult) : Sends Contract (recordCreation result) := by
  cases result with
  | ok data =>
    exact (sends_evalExpr _).bind fun _ => (sends_modify _).bind fun _ => sends_modify _
  | failed => exact sends_modify _

theorem verifyLedgers_sends : Sends Contract verifyLedgers := by
  refine sends_get.bind fun g => ?_
  refine (sends_liftPy (sample_sends _ _ _)).bind fun sampleWallets =>
    Sends.forM (fun walletId => ?_) sampleWallets
  refine Sends.tryExcept ?_ fun _ => (sends_evalExpr _).discard
  exact (sends_liftPy (Py.sends_request ⟨rfl, rfl⟩)).bind fun _ => (sends_evalExpr _).bind fun _ =>
    (sends_evalExpr _).bind fun _ => (sends_evalExpr _).bind fun _ =>
      (sends_evalExpr _).bind fun _ => sends_pure _

theorem finish_sends (opsStart opsEnd : ℚ) : Sends Contract (finish opsStart opsEnd) :=
  verifyLedgers_sends.bind fun _ => sends_evalExpr _

theorem operationsSequential_sends : ∀ n, Sends Contract (operationsSequential n)
  | 0 => sends_pure _
  | n + 1 => (sends_liftProc (choiceOf_sends _ _ _)).bind fun _ => sends_get.bind fun _ =>
    (sends_liftProc (performOperation_sends _ _)).bind fun _ => (sends_modify _).bind fun _ =>
      (operationsSequential_sends n).bind fun _ => sends_pure _

theorem mainSequential_sends (args : Args) : Sends Contract (mainSequential args) := by
  refine (sends_liftProc (time_sends _)).bind fun _ => ?_
  refine (Sends.forM (fun i => (sends_liftProc (createWallet_sends i)).bind recordCreation_sends)
    _).bind fun _ => ?_
  refine (sends_liftProc (time_sends _)).bind fun _ => sends_get.bind fun g => ?_
  split
  · exact sends_pure _
  · dsimp only
    exact (sends_pure _).bind fun _ => (sends_liftProc (time_sends _)).bind fun _ =>
      (operationsSequential_sends _).bind fun _ => (sends_liftProc (time_sends _)).bind fun _ =>
        (finish_sends _ _).bind fun _ => sends_pure _

/-! ## The ledger report -/

def ledgerQuery (walletId : Json) : Request := ⟨.getLedger, some walletId, none, [], 5⟩

theorem ledgerIteration_exec {walletId : Json} (hs : walletId.Sliceable) (env : Env) (g : Globals)
    (w : World) :
    (ledgerIteration walletId).exec env g w = ((.ok (), g), (w.sendIn env (ledgerQuery walletId)).2) := by
  obtain ⟨sliced, hsl⟩ : ∃ sliced, walletId.sliceTo 20 = .ok sliced := by
    cases walletId <;> simp_all [Json.Sliceable, Json.sliceTo]
  rw [ledgerIteration, exec_tryExcept, exec_bind, exec_liftPy, Py.run_request]
  cases (w.sendIn env _).1 with
  | error e =>
    simp only [hsl]
    rfl
  | ok response =>
    dsimp only [Except.mapError]
    cases response.raiseForStatus with
    | error e =>
      simp only [hsl]
      rfl
    | ok _ =>
      cases response.json with
      | error e =>
        simp only [hsl]
        rfl
      | ok ledger =>
        simp only [exec_bind, exec_evalExpr, Except.mapError, hsl]
        cases ledger.get "count" (.int 0) <;> rfl

/-- When every created id is a string or a list, step 4 queries the ledgers of
`min(5, len(created_wallets))` wallets drawn without replacement, each once and
whatever the answers, and changes no global. -/
theorem verifyLedgers_queries_of_sliceable {g : Globals}
    (hs : ∀ walletId ∈ g.createdWallets, walletId.Sliceable) (env : Env) (w : World) :
    ∃ sampleWallets : List Json,
      sampleWallets.length = min 5 g.createdWallets.length ∧
        sampleWallets.Subperm g.createdWallets ∧ (verifyLedgers.exec env g w).1 = (.ok (), g) ∧
        (verifyLedgers.exec env g w).2.requests = w.requests ++ sampleWallets.map ledgerQuery := by
  have hsample := (samplePool_subperm g.createdWallets (min 5 g.createdWallets.length)).run env w
  obtain ⟨new, hnew, hfalse⟩ :=
    (samplePool_sends (fun _ => False) g.createdWallets (min 5 g.createdWallets.length)).run env w
  have hnil : new = [] := List.eq_nil_iff_forall_not_mem.2 hfalse
  refine ⟨_, by rw [hsample.1]; omega, hsample.2, ?_⟩
  rw [verifyLedgers, exec_bind, exec_get]
  dsimp only
  rw [exec_bind, exec_liftPy, sample_of_le (Nat.min_le_right _ _), Py.run_lift]
  dsimp only [Except.mapError]
  obtain ⟨h₁, h₂⟩ := exec_forM_of_each _
    (fun walletId hw => ledgerIteration_exec (hs walletId (hsample.2.subset hw)) env) g
    ((samplePool g.createdWallets (min 5 g.createdWallets.length)).run env w).2
  exact ⟨h₁, by rw [h₂, hnew, hnil, List.append_nil]⟩

theorem verifyLedgers_queries_of_sliceable_one_wallet :
    (∀ walletId ∈ [Json.str "a"], walletId.Sliceable) ∧
      ∃ sampleWallets : List Json,
        sampleWallets.length = min 5 [Json.str "a"].length ∧
          sampleWallets.Subperm [Json.str "a"] ∧
          (verifyLedgers.exec ⟨fun _ => ⟨0, 0⟩, fun _ => 0, fun _ _ => .ok ⟨404, none⟩⟩
            ⟨Stats.zero, [.str "a"]⟩ World.start).1 = (.ok (), ⟨Stats.zero, [.str "a"]⟩) ∧
          (verifyLedgers.exec ⟨fun _ => ⟨0, 0⟩, fun _ => 0, fun _ _ => .ok ⟨404, none⟩⟩
            ⟨Stats.zero, [.str "a"]⟩ World.start).2.requests =
            World.start.requests ++ sampleWallets.map ledgerQuery :=
  have hs : ∀ walletId ∈ [Json.str "a"], walletId.Sliceable := fun _ h => by
    rw [List.mem_singleton.1 h]
    trivial
  ⟨hs, verifyLedgers_queries_of_sliceable (g := ⟨Stats.zero, [.str "a"]⟩) hs _ _⟩

/-! ## The pools -/

theorem creationExecutor_sends (workers i : Nat) :
    ((creationExecutor workers).submit i).Sends Contract ∧
      ((creationExecutor workers).submit i).Always fun p => p.2.Sends Contract :=
  ⟨trivial, createWallet_sends i⟩

theorem operationsExecutor_sends (workers : Nat) (walletIds : List Json) (i : Nat) :
    ((operationsExecutor workers walletIds).submit i).Sends Contract ∧
      ((operationsExecutor workers walletIds).submit i).Always fun p => p.2.Sends Contract :=
  ⟨fun _ => trivial, fun _ => performOperation_sends _ _⟩

theorem mainFast_sends {env : Env} {args : Args} {w w' : World} {r : Except Raise Unit}
    {g : Globals} {results : List (OpType × OpResult)} (h : MainFast env args w r g results w') :
    World.SentSince Contract w w' := by
  have clock : ∀ w, World.SentSince Contract w (w.readIn env).2 := fun w =>
    .of_requests_eq (World.requests_readIn env w)
  have creation := fun {s : Pool Nat CreateResult Globals} {w₀ : World}
      (hrun : Pool.Runs env (creationExecutor args.workers.toNat)
        (Pool.init args.wallets.toNat Globals.initial w₀) s) =>
    hrun.sentSince (creationExecutor_sends _) recordCreation_sends
  cases h with
  | refused => exact clock w
  | creationRaised _ hrun => exact (clock w).trans (creation hrun)
  | noWallets _ hrun => exact ((clock w).trans (creation hrun)).trans (clock _)
  | operationsRaised _ hrun _ _ _ hrun' =>
    exact ((((clock w).trans (creation hrun)).trans (clock _)).trans (clock _)).trans
      (hrun'.sentSince (operationsExecutor_sends _ _) fun _ => sends_modify _)
  | @completed s s' _ _ _ _ hrun _ _ _ hrun' _ _ hfinish =>
    have hops := ((((clock w).trans (creation hrun)).trans (clock _)).trans (clock _)).trans
      (hrun'.sentSince (operationsExecutor_sends _ _) fun _ => sends_modify _)
    have hend := (finish_sends ((s.world.readIn env).2.readIn env).1 (s'.world.readIn env).1).exec
      env s'.globals (s'.world.readIn env).2
    rw [hfinish] at hend
    exact (hops.trans (clock _)).trans hend

/-- Every request `main()` sends keeps the contract, in either mode, whatever the
service answers and, with `--fast`, whatever the interleaving. -/
theorem requests_keep_contract_in_both_modes (args : Args) :
    (∀ env g w, World.SentSince Contract w ((mainSequential args).exec env g w).2) ∧
      ∀ {env : Env} {w w' : World} {r : Except Raise Unit} {g : Globals}
        {results : List (OpType × OpResult)}, MainFast env args w r g results w' →
          World.SentSince Contract w w' :=
  ⟨(mainSequential_sends args).exec, mainFast_sends⟩

end WalletLoadTest.QuickLoadTest
