import WalletLoadTest.LoadTestWallets.Requests
import WalletLoadTest.Python.Dialog

/-!
# Debits and transfers follow a read of the balance

In `load_test_wallets.py` a debit or a transfer is decided by the balance the
service has just reported.  The pass calls `get_wallet` on the wallet the money
leaves, computes the ceiling `max_debit` or `max_transfer` from
`float(wallet_data.get("balance", 0))`, skips the request unless the ceiling `c` is
greater than 10, and otherwise sends an amount drawn from `[10, c]` and rounded to
cents.  So in every run, whatever the service answers, a debit or a transfer
request comes right after a successful read of its own wallet whose balance gives a
ceiling above 10, and carries an amount between 10 and half a cent above that
ceiling (`main_debits_follow_balance_reads`).
-/

namespace WalletLoadTest.LoadTestWallets

open Python Script

variable (parseFloat : String → Except Exc PyFloat)

def reportedBalance : Reply → Option PyFloat
  | .ok response => match response.raiseForStatus, response.json with
    | .ok (), .ok walletData => (currentBalance parseFloat walletData).toOption
    | _, _ => none
  | .error _ => none

/-- The exchange before `req` read the balance of `req`'s wallet, the ceiling `c`
computed from it passes 10, and `req` carries an amount in `[10, c + 1/200]`. -/
def ReadBefore (ceilingOf : PyFloat → PyFloat) (last : Option Exchange) (req : Request) : Prop :=
  ∃ reply balance c, last = some (⟨.getWallet, req.wallet, none, [], 10⟩, reply) ∧
    reportedBalance parseFloat reply = some balance ∧ ceilingOf balance = .num c ∧ 10 < c ∧
      AmountIn "amount" 10 (c + 1 / 200) req

/-- What a request of the script needs from the exchange before it. -/
def BalanceGuard (last : Option Exchange) (req : Request) : Prop :=
  match req.endpoint with
  | .debit => ReadBefore parseFloat maxDebit last req
  | .transfer => ReadBefore parseFloat maxTransfer last req
  | _ => True

/-! ## API calls -/

section Api

variable {C : Option Exchange → Request → Prop} {last : Option Exchange}

theorem postWith_guarded {endpoint : Endpoint} {wallet : Option Json}
    {payload : List (String × Json)} (h : ∀ key, C last ⟨endpoint, wallet, some key, payload, 10⟩) :
    Py.Guarded C (fun _ _ => True) last (postWith endpoint wallet payload) :=
  (Py.guarded_silent (Py.sends_lift (timestampedId_sends _ _ _ _))
      (Py.returns_lift (Proc.always_true _))).bind
    fun key _ ⟨_, hl⟩ => (Py.guarded_request (hl ▸ h key)).bind fun _ _ _ =>
      (Py.guarded_ofExcept _).bind fun _ _ _ => (Py.guarded_ofExcept _).mono fun _ _ _ => trivial

theorem getWith_guarded {endpoint : Endpoint} {walletId : Json}
    (h : C last ⟨endpoint, some walletId, none, [], 10⟩) :
    Py.Guarded C (fun walletData l => ∃ response,
      l = some (⟨endpoint, some walletId, none, [], 10⟩, .ok response) ∧
        response.raiseForStatus = .ok () ∧ response.json = .ok walletData) last
      (getWith endpoint walletId) :=
  (Py.guarded_request h).bind fun response _ hl =>
    (Py.guarded_ofExcept _).bind fun _ _ ⟨hr, hl'⟩ =>
      (Py.guarded_ofExcept _).mono fun _ _ ⟨hj, hl''⟩ => ⟨response, hl''.trans (hl'.trans hl), hr, hj⟩

end Api

/-! ## The loops -/

theorem creationIteration_guarded :
    Guarded (BalanceGuard parseFloat) (fun _ => True) creationIteration fun _ _ => True :=
  Guarded.bind_liftProc (timestampedId_sends _ _ _ _) (Proc.always_true _) fun _ _ =>
  Guarded.bind_liftProc (fun _ => trivial) (Proc.always_true _) fun _ _ =>
  Guarded.bind_liftProc (fun _ => trivial) (Proc.always_true _) fun _ _ =>
  Guarded.tryExcept ((guarded_liftPy fun _ _ => postWith_guarded fun _ => trivial).bind fun _ =>
      guarded_silent ((sends_evalExpr _).bind fun _ => (sends_modify _).bind fun _ => sends_modify _)
        fun _ _ _ => trivial)
    fun _ => guarded_silent (sends_modify _) fun _ _ _ => trivial

theorem operationBody_guarded (i : Nat) (k : Operation) :
    Guarded (BalanceGuard parseFloat) (fun _ => True) (operationBody parseFloat i k) fun _ _ => True := by
  cases k with
  | credit =>
    refine Guarded.bind_get fun g =>
      Guarded.bind_liftPy_silent (Py.sends_choice _) (Py.returns_choice _) fun wallet _ => ?_
    refine Guarded.bind_liftProc (fun _ => trivial) (Proc.always_true _) fun amount _ => ?_
    exact (guarded_liftPy fun _ _ => postWith_guarded fun _ => trivial).bind fun _ =>
      guarded_silent ((sends_modify _).bind fun _ => sends_evalExpr _) fun _ _ _ => trivial
  | debit =>
    refine Guarded.bind_get fun g =>
      Guarded.bind_liftPy_silent (Py.sends_choice _) (Py.returns_choice _) fun wallet _ => ?_
    refine (guarded_liftPy fun _ _ => getWith_guarded trivial).bind fun walletData => ?_
    refine Guarded.bind_evalExpr fun balance hb => ?_
    rcases hc : maxDebit balance with c | _ | _ | _
    · by_cases h10 : 10 < c
      · simp only [h10, if_true]
        refine Guarded.bind_liftProc (fun _ => trivial) (roundedUniform_amount h10) fun amount hamt => ?_
        refine (guarded_liftPy fun l ⟨response, hl, hr, hj⟩ => postWith_guarded fun key => ?_).bind
          fun _ => guarded_silent ((sends_modify _).bind fun _ => sends_evalExpr _) fun _ _ _ => trivial
        exact ⟨.ok response, balance, c, hl, by simp [reportedBalance, hr, hj, hb, Except.toOption], hc, h10,
          by simpa [AmountIn, List.lookup_cons] using hamt⟩
      · simpa [h10] using guarded_silent (sends_modify _) fun _ _ _ => trivial
    all_goals exact guarded_silent (sends_modify _) fun _ _ _ => trivial
  | transfer =>
    refine Guarded.bind_get fun g => ?_
    dsimp only
    split
    · exact guarded_silent (sends_modify _) fun _ _ _ => trivial
    refine Guarded.bind_liftPy_silent (Py.sends_choice _) (Py.returns_choice _) fun src _ =>
      Guarded.bind_liftPy_silent (Py.sends_choice _) (Py.returns_choice _) fun dst _ => ?_
    refine (guarded_liftPy fun _ _ => getWith_guarded trivial).bind fun walletData => ?_
    refine Guarded.bind_evalExpr fun balance hb => ?_
    rcases hc : maxTransfer balance with c | _ | _ | _
    · by_cases h10 : 10 < c
      · simp only [h10, if_true]
        refine Guarded.bind_liftProc (fun _ => trivial) (roundedUniform_amount h10) fun amount hamt => ?_
        refine (guarded_liftPy fun l ⟨response, hl, hr, hj⟩ => postWith_guarded fun key => ?_).bind
          fun _ => guarded_silent ((sends_modify _).bind fun _ => sends_evalExpr _) fun _ _ _ => trivial
        exact ⟨.ok response, balance, c, hl, by simp [reportedBalance, hr, hj, hb, Except.toOption],
          hc, h10, by simpa [AmountIn, List.lookup_cons] using hamt⟩
      · simpa [h10] using guarded_silent (sends_modify _) fun _ _ _ => trivial
    all_goals exact guarded_silent (sends_modify _) fun _ _ _ => trivial

theorem operationIteration_guarded (i : Nat) :
    Guarded (BalanceGuard parseFloat) (fun _ => True) (operationIteration parseFloat i)
      fun _ _ => True :=
  Guarded.bind_liftPy_silent (Py.sends_choice _) (Py.returns_choice _) fun k _ =>
    (operationBody_guarded parseFloat i k).tryExcept fun _ =>
      guarded_silent (sends_modify _) fun _ _ _ => trivial

theorem verifyLedgers_guarded :
    Guarded (BalanceGuard parseFloat) (fun _ => True) verifyLedgers fun _ _ => True :=
  Guarded.bind_get fun _ => Guarded.bind_liftPy_silent (sample_sends _ _ _)
    (Proc.always_of_forall (fun _ _ _ => trivial) _) fun _ (_ : True) =>
      Guarded.forM (fun _ => Guarded.tryExcept
        ((guarded_liftPy fun _ _ => getWith_guarded trivial).bind fun _ =>
          guarded_silent ((sends_evalExpr _).bind fun _ => sends_pure _) fun _ _ _ => trivial)
        fun _ => guarded_silent (sends_pure _) fun _ _ _ => trivial) _

theorem mainWith_guarded (wallets operations : Nat) :
    Guarded (BalanceGuard parseFloat) (fun _ => True) (mainWith parseFloat wallets operations)
      fun _ _ => True := by
  refine (Guarded.forM (fun _ => creationIteration_guarded parseFloat) _).bind fun _ =>
    Guarded.bind_get fun g => ?_
  have rest : Guarded (BalanceGuard parseFloat) (fun _ => True)
      (((List.range operations).forM (operationIteration parseFloat)) >>= fun _ => verifyLedgers)
      fun _ _ => True :=
    (Guarded.forM (operationIteration_guarded parseFloat) _).bind fun _ => verifyLedgers_guarded parseFloat
  dsimp only
  split
  · exact (guarded_throw _).bind fun _ => rest
  · exact (guarded_silent (sends_pure _) fun _ _ h => h).bind fun _ => rest

end WalletLoadTest.LoadTestWallets
