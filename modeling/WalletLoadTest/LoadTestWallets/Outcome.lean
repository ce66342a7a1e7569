import WalletLoadTest.LoadTestWallets.Counting
import WalletLoadTest.Python.Trace

/-!
# How `load_test_wallets.main` ends

`main()` never lets an exception out.  It either exits through `sys.exit(1)`,
exactly when no wallet was created, or returns with every wallet creation
counted once and each of the `NUM_OPERATIONS` passes counted once or twice: twice
only for a pass whose progress bar slices a created wallet id that is not a
string or a list (`operationIteration_counts_credit_twice`).  The operations and
the ledger report leave the wallet counters and `created_wallets` as the creation
loop left them.

The ledger report queries `min(5, len(created_wallets))` wallets, sampled without
replacement by the selection loop of `random.sample`, one query each: a failed
query does not stop the others.
-/

namespace WalletLoadTest.LoadTestWallets

open Python Script

namespace Stats

@[simp] theorem operationsCounted_bumpSuccess (s : Stats) (k : Operation) :
    (s.bumpSuccess k).operationsCounted = s.operationsCounted + 1 := by
  cases k <;> simp only [bumpSuccess, operationsCounted] <;> omega

@[simp] theorem operationsCounted_bumpFailed (s : Stats) (k : Operation) :
    (s.bumpFailed k).operationsCounted = s.operationsCounted + 1 := by
  cases k <;> simp only [bumpFailed, operationsCounted] <;> omega

@[simp] theorem walletsCreated_bumpSuccess (s : Stats) (k : Operation) :
    (s.bumpSuccess k).walletsCreated = s.walletsCreated := by
  cases k <;> rfl

@[simp] theorem walletsCreated_bumpFailed (s : Stats) (k : Operation) :
    (s.bumpFailed k).walletsCreated = s.walletsCreated := by
  cases k <;> rfl

@[simp] theorem walletsFailed_bumpSuccess (s : Stats) (k : Operation) :
    (s.bumpSuccess k).walletsFailed = s.walletsFailed := by
  cases k <;> rfl

@[simp] theorem walletsFailed_bumpFailed (s : Stats) (k : Operation) :
    (s.bumpFailed k).walletsFailed = s.walletsFailed := by
  cases k <;> rfl

end Stats

/-! ## The operations loop -/

/-- After `k` passes of the operations loop that started from `g₀`: the wallet
counters and `created_wallets` are those of `g₀`, and the `k` passes were counted
once each, or twice for some when a created id cannot be sliced.  The counts start
from those of `g₀`, which the creation loop leaves at 0. -/
def OperationsTally (g₀ : Globals) (k : Nat) (g : Globals) : Prop :=
  g.createdWallets = g₀.createdWallets ∧ g.stats.walletsCreated = g₀.stats.walletsCreated ∧
    g.stats.walletsFailed = g₀.stats.walletsFailed ∧
    g₀.stats.operationsCounted + k ≤ g.stats.operationsCounted ∧
    g.stats.operationsCounted ≤ g₀.stats.operationsCounted + 2 * k ∧
    ((∀ w ∈ g.createdWallets, w.id.Sliceable) →
      g.stats.operationsCounted = g₀.stats.operationsCounted + k)

theorem operationsTally_start (g₀ : Globals) : OperationsTally g₀ 0 g₀ :=
  ⟨rfl, rfl, rfl, le_rfl, le_rfl, fun _ => rfl⟩

theorem PassCounted.counts {op : Operation} {g g' : Globals} (hp : PassCounted op g g') :
    g'.createdWallets = g.createdWallets ∧ g'.stats.walletsCreated = g.stats.walletsCreated ∧
      g'.stats.walletsFailed = g.stats.walletsFailed ∧
      (g'.stats.operationsCounted = g.stats.operationsCounted + 1 ∨
        g'.stats.operationsCounted = g.stats.operationsCounted + 2 ∧
          ∃ w ∈ g.createdWallets, ¬ w.id.Sliceable) := by
  rcases hp with rfl | rfl | ⟨rfl, hw⟩
  · simp [Globals.bumpFailed]
  · simp [Globals.bumpSuccess]
  · simp [Globals.bumpFailed, Globals.bumpSuccess, hw]

theorem OperationsTally.pass {g₀ g g' : Globals} {k : Nat} {op : Operation}
    (h : OperationsTally g₀ k g) (hp : PassCounted op g g') : OperationsTally g₀ (k + 1) g' := by
  obtain ⟨hw, hc, hf, hlo, hhi, hs⟩ := h
  obtain ⟨hw', hc', hf', hn | ⟨hn, w, hmem, hns⟩⟩ := hp.counts
  · refine ⟨hw'.trans hw, hc'.trans hc, hf'.trans hf, by omega, by omega, fun hall => ?_⟩
    rw [hn, hs (hw' ▸ hall), Nat.add_assoc]
  · exact ⟨hw'.trans hw, hc'.trans hc, hf'.trans hf, by omega, by omega,
      fun hall => absurd (hall w (hw' ▸ hmem)) hns⟩

theorem operationIteration_spec (parseFloat : String → Except Exc PyFloat) (i : Nat)
    (g₀ : Globals) (k : Nat) :
    Spec (OperationsTally g₀ k) (operationIteration parseFloat i) (fun _ => OperationsTally g₀ (k + 1))
      (fun _ _ => False) := fun g hg =>
  (Spec.bind_choice (fun op _ => (operationAttempt_spec parseFloat i g op).mono (fun _ h => h)
    (fun _ _ hp => hg.pass hp) fun _ _ h => h) (fun h => List.cons_ne_nil _ _ h) :
    Spec (· = g) (operationIteration parseFloat i) _ _) g rfl

/-- The operations loop counts each of its passes once or twice. -/
theorem operationsLoop_spec (parseFloat : String → Except Exc PyFloat) (g₀ : Globals) :
    Spec (· = g₀) ((List.range numOperations).forM (operationIteration parseFloat))
      (fun _ => OperationsTally g₀ numOperations) (fun _ _ => False) := by
  have h := Spec.forM (fun i k => operationIteration_spec parseFloat i g₀ k)
    (List.range numOperations) 0
  rw [List.length_range, Nat.zero_add] at h
  exact h.mono (fun _ hs => hs ▸ operationsTally_start g₀) (fun _ _ h => h) fun _ _ h => h

/-! ## The ledger report -/

theorem verifyLedgers_spec (g : Globals) :
    Spec (· = g) verifyLedgers (fun _ => (· = g)) (fun _ _ => False) := by
  refine Spec.bind_get ?_
  dsimp only
  rw [sample_of_le (Nat.min_le_right _ _)]
  refine Spec.bind_liftProc fun sampleWallets => ?_
  simpa using Spec.forM (I := fun _ => (· = g)) (fun _ _ =>
    Spec.tryExcept (B := fun r s => s = g ∧ ∃ e, r = .exception e)
      (Spec.bind Spec.liftPy_frame fun _ => Spec.bind Spec.evalExpr_frame fun _ =>
        Spec.pure fun _ hs => hs)
      (fun _ => Spec.pure fun _ ⟨hs, _⟩ => hs) fun _ _ ⟨_, _, h⟩ => nomatch h) sampleWallets 0

theorem getWith_world (endpoint : Endpoint) (walletId : Json) (env : Env) (w : World) :
    ((getWith endpoint walletId).run.run env w).2 =
      (w.sendIn env ⟨endpoint, some walletId, none, [], 10⟩).2 := by
  rw [getWith, Py.run_bind, Py.run_request]
  cases (w.sendIn env _).1 with
  | error e => rfl
  | ok response =>
    dsimp only
    rw [Py.run_bind]
    cases response.raiseForStatus <;> rfl

def ledgerQuery (wallet : WalletRecord) : Request := ⟨.getLedger, some wallet.id, none, [], 10⟩

theorem ledgerIteration_exec (wallet : WalletRecord) (env : Env) (g : Globals) (w : World) :
    (ledgerIteration wallet).exec env g w = ((.ok (), g), (w.sendIn env (ledgerQuery wallet)).2) := by
  have hw := getWith_world .getLedger wallet.id env w
  rw [ledgerIteration, exec_tryExcept, exec_bind, exec_liftPy]
  unfold getLedgerEntries
  generalize (getWith .getLedger wallet.id).run.run env w = r at hw ⊢
  rcases r with ⟨e | ledger, w'⟩
  · cases hw
    rfl
  · cases hw
    simp only [exec_bind, Except.mapError, exec_liftPy]
    cases ledger.get "count" (.int 0) <;> rfl

/-- Step 5 queries the ledgers of `min(5, len(created_wallets))` wallets drawn from
`created_wallets` without replacement, each once and whatever the answers, and
changes no global. -/
theorem verifyLedgers_queries (env : Env) (g : Globals) (w : World) :
    ∃ sampleWallets : List WalletRecord,
      sampleWallets.length = min 5 g.createdWallets.length ∧
        sampleWallets.Subperm g.createdWallets ∧ (verifyLedgers.exec env g w).1 = (.ok (), g) ∧
        (verifyLedgers.exec env g w).2.requests = w.requests ++ sampleWallets.map ledgerQuery := by
  have hsample := (samplePool_subperm g.createdWallets (min 5 g.createdWallets.length)).run env w
  obtain ⟨new, hnew, hfalse⟩ :=
    (samplePool_sends (fun _ => False) g.createdWallets (min 5 g.createdWallets.length)).run env w
  have hnil : new = [] := List.eq_nil_iff_forall_not_mem.2 hfalse
  refine ⟨_, by rw [hsample.1]; omega, hsample.2, ?_⟩
  rw [verifyLedgers, exec_bind, exec_get]
  dsimp only
  rw [exec_bind, exec_liftPy, sample_of_le (Nat.min_le_right _ _), Py.run_lift]
  dsimp only [Except.mapError]
  obtain ⟨h₁, h₂⟩ := exec_forM_of_each _ (fun wallet _ => ledgerIteration_exec wallet env) g
    ((samplePool g.createdWallets (min 5 g.createdWallets.length)).run env w).2
  exact ⟨h₁, by rw [h₂, hnew, hnil, List.append_nil]⟩

/-! ## `main` -/

/-- The globals after a normal end of `main()`. -/
def Completed (g : Globals) : Prop :=
  g.stats.walletsCreated + g.stats.walletsFailed = numWallets ∧
    g.createdWallets.length = g.stats.walletsCreated ∧ 0 < g.stats.walletsCreated ∧
    numOperations ≤ g.stats.operationsCounted ∧ g.stats.operationsCounted ≤ 2 * numOperations ∧
    ((∀ w ∈ g.createdWallets, w.id.Sliceable) → g.stats.operationsCounted = numOperations)

theorem completed_of_tally {g₀ g : Globals} (hc : CreationTally numWallets g₀)
    (hpos : 0 < g₀.stats.walletsCreated) (h : OperationsTally g₀ numOperations g) :
    Completed g := by
  obtain ⟨hc₁, hc₂, hc₃⟩ := hc
  obtain ⟨hw, hwc, hwf, hlo, hhi, hs⟩ := h
  refine ⟨by rw [hwc, hwf, hc₁], by rw [hw, hwc, hc₂], hwc ▸ hpos, by omega, by omega,
    fun hall => by rw [hs hall, hc₃, Nat.zero_add]⟩

/-- `main()` with any `float` parser, from the module's initial globals: it returns
with the counts of `Completed`, or exits through `sys.exit(1)` with no wallet
created; no exception escapes. -/
theorem main_spec (parseFloat : String → Except Exc PyFloat) :
    Spec (· = Globals.initial) (main parseFloat) (fun _ => Completed)
      (fun r g => r = .systemExit 1 ∧ CreationTally numWallets g ∧ g.stats.walletsCreated = 0) := by
  refine Spec.bind (creationLoop_spec.mono (fun _ h => by subst h; exact ⟨rfl, rfl, rfl⟩)
    (fun _ _ h => h) fun _ _ (h : False) => h.elim) fun _ g hc => ?_
  refine Spec.bind_get ?_ g rfl
  by_cases h0 : g.stats.walletsCreated = 0
  · simp only [h0, if_true]
    exact Spec.bind (Spec.throw (Q := fun _ _ => False) fun _ hs => hs ▸ ⟨rfl, hc, h0⟩) nofun
  · simp only [h0, if_false, pure_bind]
    exact Spec.bind ((operationsLoop_spec parseFloat g).mono (fun _ h => h) (fun _ _ h => h)
      fun _ _ h => h.elim) fun _ g' hg' =>
      (verifyLedgers_spec g').mono (fun _ h => h) (fun _ _ h => h ▸ completed_of_tally hc
        (Nat.pos_of_ne_zero h0) hg') (fun _ _ h => h.elim) g' rfl

end WalletLoadTest.LoadTestWallets
