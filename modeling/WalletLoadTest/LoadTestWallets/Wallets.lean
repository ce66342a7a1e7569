import WalletLoadTest.LoadTestWallets.Successes

/-!
# The wallet counters count the creation answers

A pass of the creation loop posts once to `/wallets`.  Inside the `try`, the
answer is recorded, and `wallets_created` moves, only when `create_wallet`
returned a wallet that has `"id"`, `"ownerId"` and `"balance"`; any other answer
ends in the `except`, which moves `wallets_failed`.  Nothing else in `main()`
posts to `/wallets` or moves these two counters.  So however `main()` ends,
`wallets_created` is the number of `/wallets` answers that held such a wallet,
and `wallets_failed` the number of the other `/wallets` requests.
-/

namespace WalletLoadTest.LoadTestWallets

open Python Script

def holdsWallet (reply : Reply) : Bool :=
  match answerBody reply with
  | some wallet => Except.toBool (do
      let id ← wallet.getItem "id"
      let owner ← wallet.getItem "ownerId"
      let balance ← wallet.getItem "balance"
      pure (WalletRecord.mk id owner balance) : Except Exc WalletRecord)
  | none => false

def walletCounter (g : Globals) : Bool → Nat
  | true => g.stats.walletsCreated
  | false => g.stats.walletsFailed

def creationFor (created : Bool) (e : Exchange) : Bool :=
  decide (e.1.endpoint = .createWallet) && (holdsWallet e.2 == created)

theorem creationFor_eq_false {e : Exchange} (h : e.1.endpoint ≠ .createWallet) (created : Bool) :
    creationFor created e = false := by
  simp [creationFor, h]

theorem walletCounter_bumpSuccess (g : Globals) (k : Operation) (c : Bool) :
    walletCounter (g.bumpSuccess k) c = walletCounter g c := by
  cases k <;> cases c <;> rfl

theorem walletCounter_bumpFailed (g : Globals) (k : Operation) (c : Bool) :
    walletCounter (g.bumpFailed k) c = walletCounter g c := by
  cases k <;> cases c <;> rfl

theorem wallets_tracked : OperationsTracked walletCounter creationFor where
  post k _ _ _ hf :=
    (tracks_liftPy (postWith_sends_route _ _ _) fun _ hr c _ =>
      creationFor_eq_false (by rw [hr]; cases k <;> decide) c).bind fun _ =>
    (tracks_modify fun g c => walletCounter_bumpSuccess g k c).bind hf
  bumpFailed := walletCounter_bumpFailed
  reads _ h := creationFor_eq_false (by rcases h with h | h <;> rw [h] <;> decide)

theorem createWallet_body (walletId ownerId : String) (initialBalance : ℚ) :
    (createWallet walletId ownerId initialBalance).run.AtMostOnce fun r o =>
      ∃ e, o = some e ∧ e.1.endpoint = .createWallet ∧ r.toOption = answerBody e.2 :=
  postWith_body _ _ _

theorem tallied_creation {g g' : Globals} {w w' : World} {e : Exchange}
    (hw : w'.exchanges = w.exchanges ++ [e]) (hroute : e.1.endpoint = .createWallet)
    (hcreated : g'.stats.walletsCreated = g.stats.walletsCreated + (holdsWallet e.2).toNat)
    (hfailed : g'.stats.walletsFailed = g.stats.walletsFailed + (!holdsWallet e.2).toNat) :
    Tallied walletCounter creationFor g w g' w' :=
  ⟨[e], hw, fun c => by
    cases c <;> cases h : holdsWallet e.2 <;> simp [walletCounter, creationFor, hroute, hcreated, hfailed, h]⟩

theorem creationIteration_counts : Tracks walletCounter creationFor creationIteration := by
  refine (tracks_liftProc (timestampedId_sends _ _ _ _)).bind fun walletId => ?_
  refine (tracks_liftProc generateOwnerId_silent).bind fun ownerId =>
    (tracks_liftProc (roundedUniform_silent _ _)).bind fun initialBalance => ?_
  intro env g w
  obtain ⟨o, hw, e, rfl, hroute, hbody⟩ := (createWallet_body walletId ownerId initialBalance).run env w
  have hcreate := exec_liftPy (σ := Globals) (createWallet walletId ownerId initialBalance) env g w
  generalize (createWallet walletId ownerId initialBalance).run.run env w = p at hw hbody hcreate
  obtain ⟨_ | wallet, w'⟩ := p
  · have hholds : holdsWallet e.2 = false := by rw [holdsWallet, ← hbody]; rfl
    rw [exec_tryExcept_bind_error hcreate, exec_modify]
    exact tallied_creation hw hroute (by rw [hholds]; rfl) (by rw [hholds]; rfl)
  · rw [exec_tryExcept_bind_ok hcreate, exec_tryExcept_evalExpr_bind]
    split
    next record hrecord =>
      have hholds : holdsWallet e.2 = true := by
        rw [holdsWallet, ← hbody]
        dsimp only [Except.toOption]
        rw [hrecord]
        rfl
      rw [exec_tryExcept, exec_bind, exec_modify]
      exact tallied_creation hw hroute (by rw [hholds]; rfl) (by rw [hholds]; rfl)
    next ex hrecord =>
      have hholds : holdsWallet e.2 = false := by
        rw [holdsWallet, ← hbody]
        dsimp only [Except.toOption]
        rw [hrecord]
        rfl
      rw [exec_modify]
      exact tallied_creation hw hroute (by rw [hholds]; rfl) (by rw [hholds]; rfl)

/-- However `main()` ends, whatever the service answers and the float parser
does, `wallets_created` is the number of requests to `/wallets` whose answer held
a wallet with `"id"`, `"ownerId"` and `"balance"`, and `wallets_failed` the number
of the other requests to `/wallets`. -/
theorem wallet_counters_count_creation_answers (parseFloat : String → Except Exc PyFloat) (env : Env)
    (w : World) :
    ∃ new, ((main parseFloat).exec env Globals.initial w).2.exchanges = w.exchanges ++ new ∧
      ((main parseFloat).exec env Globals.initial w).1.2.stats.walletsCreated =
        new.countP (fun e => decide (e.1.endpoint = .createWallet) && holdsWallet e.2) ∧
      ((main parseFloat).exec env Globals.initial w).1.2.stats.walletsFailed =
        new.countP (fun e => decide (e.1.endpoint = .createWallet) && !holdsWallet e.2) :=
  let ⟨new, hw, hk⟩ := wallets_tracked.main_tracks creationIteration_counts parseFloat env Globals.initial w
  have hcount : ∀ c, walletCounter Globals.initial c + new.countP (creationFor c) =
      new.countP fun e => decide (e.1.endpoint = .createWallet) && (holdsWallet e.2 == c) := fun c => by
    rw [show walletCounter Globals.initial c = 0 by cases c <;> rfl, Nat.zero_add]
    rfl
  ⟨new, hw, (hk true).trans ((hcount true).trans (by simp)),
    (hk false).trans ((hcount false).trans (by simp))⟩

end WalletLoadTest.LoadTestWallets
