import WalletLoadTest.LoadTestWallets.Amounts
import WalletLoadTest.Python.Trace

/-!
# The requests of `load_test_wallets.py`

Every call of a run has a 10 s timeout.  A POST carries an
`Idempotency-Key` and an amount rounded to cents within its URL's range:
`initialBalance` in `[100, 10000]`, a credit in `[10, 1000]`, a debit in
`[10, 500]` and a transfer in `[10, 300]`, whatever balance the service reported.
A transfer's destination id is not `==` its source id.  A GET carries no key.
The bounds of a debit and a transfer are the caps of `min(..., 500)` and
`min(..., 300)`: they hold although the amount may pass the balance-dependent
ceiling by half a cent (`transfer_amount_exceeds_ceiling`).
-/

namespace WalletLoadTest.LoadTestWallets

open Python Script

def AmountIn (key : String) (lo hi : ℚ) (req : Request) : Prop :=
  match req.body.lookup key with
  | some (.float (.num q)) => lo ≤ q ∧ q ≤ hi ∧ Cents q
  | _ => False

def PostWith (key : String) (lo hi : ℚ) (req : Request) : Prop :=
  req.idempotencyKey.isSome ∧ AmountIn key lo hi req

def DistinctEnds (req : Request) : Prop :=
  match req.wallet, req.body.lookup "toWalletId" with
  | some src, some dst => dst.pyEq src = false
  | _, _ => False

/-- What the script sends on each route. -/
def Contract (req : Request) : Prop :=
  req.timeout = 10 ∧
    match req.endpoint with
    | .createWallet => PostWith "initialBalance" 100 10000 req
    | .credit => PostWith "amount" 10 1000 req
    | .debit => PostWith "amount" 10 500 req
    | .transfer => PostWith "amount" 10 300 req ∧ DistinctEnds req
    | .getWallet | .getLedger => req.idempotencyKey = none

/-! ## API calls -/

theorem postWith_sends {endpoint : Endpoint} {wallet : Option Json} {payload : List (String × Json)}
    (h : ∀ key, Contract ⟨endpoint, wallet, some key, payload, 10⟩) :
    (postWith endpoint wallet payload).Sends Contract :=
  Py.Sends.bind' (Py.sends_lift fun _ _ => trivial) fun key =>
    Py.Sends.bind' (Py.sends_request (h key)) fun _ =>
      Py.Sends.bind' (Py.sends_ofExcept _) fun _ => Py.sends_ofExcept _

theorem getWith_sends {endpoint : Endpoint} {walletId : Json}
    (h : Contract ⟨endpoint, some walletId, none, [], 10⟩) : (getWith endpoint walletId).Sends Contract :=
  Py.Sends.bind' (Py.sends_request h) fun _ =>
    Py.Sends.bind' (Py.sends_ofExcept _) fun _ => Py.sends_ofExcept _

theorem getWallet_sends (walletId : Json) : (getWallet walletId).Sends Contract :=
  getWith_sends ⟨rfl, rfl⟩

theorem createWallet_sends (walletId ownerId : String) {initialBalance : ℚ}
    (h : 100 ≤ initialBalance ∧ initialBalance ≤ 10000 ∧ Cents initialBalance) :
    (createWallet walletId ownerId initialBalance).Sends Contract :=
  postWith_sends fun _ => ⟨rfl, rfl, by simpa [AmountIn, List.lookup_cons] using h⟩

theorem creditWallet_sends (walletId : Json) {amount : ℚ} (description : String)
    (h : 10 ≤ amount ∧ amount ≤ 1000 ∧ Cents amount) : (creditWallet walletId amount description).Sends Contract :=
  postWith_sends fun _ => ⟨rfl, rfl, by simpa [AmountIn, List.lookup_cons] using h⟩

theorem debitWallet_sends (walletId : Json) {amount : ℚ} (description : String)
    (h : 10 ≤ amount ∧ amount ≤ 500 ∧ Cents amount) : (debitWallet walletId amount description).Sends Contract :=
  postWith_sends fun _ => ⟨rfl, rfl, by simpa [AmountIn, List.lookup_cons] using h⟩

theorem transferWallet_sends {fromWalletId toWalletId : Json} {amount : ℚ} (description : String)
    (hne : toWalletId.pyEq fromWalletId = false) (h : 10 ≤ amount ∧ amount ≤ 300 ∧ Cents amount) :
    (transferWallet fromWalletId toWalletId amount description).Sends Contract :=
  postWith_sends fun _ => ⟨rfl, ⟨rfl, by simpa [AmountIn, List.lookup_cons] using h⟩,
    by simpa [DistinctEnds, List.lookup_cons] using hne⟩

/-! ## The loops -/

theorem creationIteration_sends : Sends Contract creationIteration := by
  refine (sends_liftProc (timestampedId_sends _ _ _ _)).bind fun walletId => ?_
  refine (sends_liftProc (show generateOwnerId.Sends Contract from fun _ => trivial)).bind
    fun ownerId => ?_
  refine Sends.bind_liftProc (fun _ => trivial)
    (roundedUniform_mem (a := 10000) (b := 1000000) (by norm_num) (by norm_num) (by norm_num))
    fun b hb => ?_
  refine Sends.tryExcept ?_ fun _ => sends_modify _
  norm_num at hb
  exact (sends_liftPy (createWallet_sends walletId ownerId hb)).bind fun _ =>
    (sends_evalExpr _).bind fun _ => (sends_modify _).bind fun _ => sends_modify _

theorem operationBody_sends (parseFloat : String → Except Exc PyFloat) (i : Nat) (k : Operation) :
    Sends Contract (operationBody parseFloat i k) := by
  cases k with
  | credit =>
    refine sends_get.bind fun g => (sends_liftPy (Py.sends_choice _)).bind fun wallet => ?_
    refine Sends.bind_liftProc (fun _ => trivial)
      (roundedUniform_mem (a := 1000) (b := 100000) (by norm_num) (by norm_num) (by norm_num))
      fun amount h => ?_
    norm_num at h
    exact (sends_liftPy (creditWallet_sends _ _ h)).bind fun _ =>
      (sends_modify _).bind fun _ => sends_evalExpr _
  | debit =>
    refine sends_get.bind fun g => (sends_liftPy (Py.sends_choice _)).bind fun wallet => ?_
    refine (sends_liftPy (getWallet_sends _)).bind fun walletData =>
      (sends_evalExpr _).bind fun balance => ?_
    rcases hc : maxDebit balance with c | _ | _ | _
    · by_cases h10 : 10 < c
      · simp only [h10, if_true]
        refine Sends.bind_liftProc (fun _ => trivial) (roundedUniform_mem (a := 1000) (b := 50000)
          h10.le (by norm_num) (by norm_num; exact ceiling_le_cap hc)) fun amount h => ?_
        norm_num at h
        exact (sends_liftPy (debitWallet_sends _ _ h)).bind fun _ =>
          (sends_modify _).bind fun _ => sends_evalExpr _
      · simpa [h10] using sends_modify _
    all_goals exact sends_modify _
  | transfer =>
    refine sends_get.bind fun g => ?_
    dsimp only
    split
    · exact sends_modify _
    refine (sends_liftPy (Py.sends_choice _)).bind fun src => ?_
    refine Sends.bind_liftPy (Py.sends_choice _) (Py.returns_choice _) fun dst hdst => ?_
    have hne : dst.id.pyEq src.id = false := by simpa using (List.mem_filter.1 hdst).2
    refine (sends_liftPy (getWallet_sends _)).bind fun walletData =>
      (sends_evalExpr _).bind fun balance => ?_
    rcases hc : maxTransfer balance with c | _ | _ | _
    · by_cases h10 : 10 < c
      · simp only [h10, if_true]
        refine Sends.bind_liftProc (fun _ => trivial) (roundedUniform_mem (a := 1000) (b := 30000)
          h10.le (by norm_num) (by norm_num; exact ceiling_le_cap hc)) fun amount h => ?_
        norm_num at h
        exact (sends_liftPy (transferWallet_sends _ hne h)).bind fun _ =>
          (sends_modify _).bind fun _ => sends_evalExpr _
      · simpa [h10] using sends_modify _
    all_goals exact sends_modify _

theorem operationIteration_sends (parseFloat : String → Except Exc PyFloat) (i : Nat) :
    Sends Contract (operationIteration parseFloat i) :=
  (sends_liftPy (Py.sends_choice _)).bind fun k =>
    (operationBody_sends parseFloat i k).tryExcept fun _ => sends_modify _

theorem verifyLedgers_sends : Sends Contract verifyLedgers := by
  refine sends_get.bind fun g => ?_
  refine (sends_liftPy (sample_sends _ _ _)).bind fun sampleWallets =>
    Sends.forM (fun wallet => ?_) sampleWallets
  exact Sends.tryExcept ((sends_liftPy (getWith_sends ⟨rfl, rfl⟩)).bind fun _ =>
    (sends_evalExpr _).bind fun _ => sends_pure _) fun _ => sends_pure _

theorem mainWith_sends (parseFloat : String → Except Exc PyFloat) (wallets operations : Nat) :
    Sends Contract (mainWith parseFloat wallets operations) := by
  refine (Sends.forM (fun _ => creationIteration_sends) _).bind fun _ => sends_get.bind fun g => ?_
  have rest : Sends Contract (((List.range operations).forM (operationIteration parseFloat)) >>=
      fun _ => verifyLedgers) :=
    (Sends.forM (operationIteration_sends parseFloat) _).bind fun _ => verifyLedgers_sends
  dsimp only
  split
  · exact (sends_throw _).bind fun _ => rest
  · exact (sends_pure _).bind fun _ => rest

/-- Every call `main()` makes keeps the contract, whatever the service answers. -/
theorem main_requests_keep_contract (parseFloat : String → Except Exc PyFloat) (env : Env)
    (g : Globals) (w : World) :
    World.SentSince Contract w ((main parseFloat).exec env g w).2 :=
  (mainWith_sends parseFloat numWallets numOperations).exec env g w

end WalletLoadTest.LoadTestWallets
