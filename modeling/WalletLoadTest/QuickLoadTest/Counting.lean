import WalletLoadTest.QuickLoadTest.Main

/-!
# The counters of `quick_load_test.py`

`create_wallet` and `perform_operation` catch every exception and return a dict,
and `perform_operation(op_type, ...)` returns a dict whose `"type"` is `op_type`
on every path.  The main thread turns each result into exactly one increment, of
`stats["wallets"]` or of `stats[result["type"]]`.  So in both modes, and whatever
order `as_completed` yields the futures in, the final statistics count every
wallet creation once and every operation once, under the kind it was drawn or
submitted with: the operation counters are the tally of the results, and the
tally does not depend on their order.

Before the final statistics only two statements outside the per-item functions
can raise: `result["data"]["id"]`, before any counter moves, and the slicing of
a sampled wallet id in the ledger report.
-/

namespace WalletLoadTest.QuickLoadTest

open Python Script

namespace Stats

def attempts (s : Stats) (k : OpType) : Nat := (s.get k).success + (s.get k).failed

@[simp] theorem record_wallets (s : Stats) (k : OpType) (b : Bool) :
    (s.record k b).wallets = s.wallets := by
  cases k <;> rfl

@[simp] theorem get_with_wallets (s : Stats) (c : Counter) (k : OpType) :
    ({ s with wallets := c } : Stats).get k = s.get k := by
  cases k <;> rfl

theorem get_record (s : Stats) (k k' : OpType) (b : Bool) :
    (s.record k b).get k' = if k = k' then Counter.bump (s.get k') b else s.get k' := by
  cases k <;> cases k' <;> rfl

theorem attempts_record (s : Stats) (k k' : OpType) (b : Bool) :
    (s.record k b).attempts k' = s.attempts k' + if k = k' then 1 else 0 := by
  cases k <;> cases k' <;> cases b <;> simp [record, attempts, get, Counter.bump] <;> omega

def tally (s : Stats) (results : List OpResult) : Stats :=
  results.foldl (fun s r => s.record r.type r.success) s

@[simp] theorem tally_nil (s : Stats) : s.tally [] = s := rfl

@[simp] theorem tally_cons (s : Stats) (r : OpResult) (rs : List OpResult) :
    s.tally (r :: rs) = (s.record r.type r.success).tally rs := rfl

theorem tally_append_singleton (s : Stats) (rs : List OpResult) (r : OpResult) :
    s.tally (rs ++ [r]) = (s.tally rs).record r.type r.success :=
  List.foldl_append _ _ _ _

@[simp] theorem tally_wallets (s : Stats) (rs : List OpResult) : (s.tally rs).wallets = s.wallets := by
  induction rs generalizing s with
  | nil => rfl
  | cons r rs ih => simp [ih]

theorem attempts_tally (s : Stats) (rs : List OpResult) (k : OpType) :
    (s.tally rs).attempts k = s.attempts k + (rs.map OpResult.type).count k := by
  induction rs generalizing s with
  | nil => rfl
  | cons r rs ih =>
    rw [tally_cons, ih, attempts_record, List.map_cons, List.count_cons]
    by_cases h : r.type = k <;> simp [h]
    omega

theorem eq_of_get {s s' : Stats} (hw : s.wallets = s'.wallets) (h : ∀ k, s.get k = s'.get k) :
    s = s' := by
  cases s; cases s'
  simp only [mk.injEq]
  exact ⟨hw, h .credit, h .debit, h .transfer⟩

end Stats

/-! ## The per-item functions -/

theorem singleWalletOp_type (kind : OpType) (endpoint : Endpoint) (maxAmount : Nat)
    (description : String) (walletIds : List Json) :
    (singleWalletOp kind endpoint maxAmount description walletIds).Returns (·.type = kind) :=
  .bind fun _ => .bind fun _ => .bind fun _ => .bind fun _ => .bind fun _ => Py.returns_pure rfl

theorem transferOp_type (walletIds : List Json) :
    (transferOp walletIds).Returns (·.type = .transfer) := by
  unfold transferOp
  split
  · exact Py.returns_pure rfl
  · exact .bind fun _ => .bind fun _ => .bind fun _ => .bind fun _ => .bind fun _ =>
      .bind fun _ => Py.returns_pure rfl

theorem performOperation_type (opType : OpType) (walletIds : List Json) :
    (performOperation opType walletIds).Always (·.type = opType) := by
  have h : Py.Returns (·.type = opType) (match opType with
      | .credit => singleWalletOp .credit .credit 500 "Load test credit" walletIds
      | .debit => singleWalletOp .debit .debit 200 "Load test debit" walletIds
      | .transfer => transferOp walletIds) := by
    cases opType
    · exact singleWalletOp_type _ _ _ _ _
    · exact singleWalletOp_type _ _ _ _ _
    · exact transferOp_type _
  refine Proc.Always.bind h fun r hr => ?_
  rcases r with e | r
  · rfl
  · exact hr r rfl

/-! ## The loop bodies of the main thread -/

/-- After `n` wallet creations: each counted once, `created_wallets` holding one
entry per success, and no operation counted yet. -/
def CreationTally (n : Nat) (g : Globals) : Prop :=
  g.stats.wallets.success + g.stats.wallets.failed = n ∧
    g.createdWallets.length = g.stats.wallets.success ∧ ∀ k, g.stats.get k = ⟨0, 0⟩

theorem creationTally_initial : CreationTally 0 Globals.initial :=
  ⟨rfl, rfl, fun k => by cases k <;> rfl⟩

def ReadIdError (r : Raise) : Prop :=
  r = .exception (.keyError "id") ∨ r = .exception .typeError

def SliceError (r : Raise) : Prop :=
  r = .exception .typeError ∨ r = .exception .dictSlice

theorem recordCreation_spec (n : Nat) (result : CreateResult) :
    Spec (CreationTally n) (recordCreation result) (fun _ => CreationTally (n + 1))
      (fun r _ => ReadIdError r) := by
  cases result with
  | ok data =>
    refine Spec.bind (Spec.evalExpr (Q := fun _ => CreationTally n) (fun _ _ _ h => h)
      fun e he _ _ => ?_) fun _ => ?_
    · rcases Json.getItem_error he with rfl | rfl
      exacts [.inl rfl, .inr rfl]
    refine Spec.bind (Spec.modifyState (Q := fun _ g => g.stats.wallets.success +
      g.stats.wallets.failed = n ∧ g.createdWallets.length = g.stats.wallets.success + 1 ∧
      ∀ k, g.stats.get k = ⟨0, 0⟩) fun g ⟨h₁, h₂, h₃⟩ => ⟨h₁, by simp [h₂], h₃⟩) fun _ => ?_
    exact Spec.modifyState fun g ⟨h₁, h₂, h₃⟩ =>
      ⟨by simp [Stats.Counter.bump]; omega, by simpa [Stats.Counter.bump] using h₂,
        fun k => by simpa using h₃ k⟩
  | failed _ _ =>
    exact Spec.modifyState fun g ⟨h₁, h₂, h₃⟩ =>
      ⟨by simp [Stats.Counter.bump]; omega, by simpa [Stats.Counter.bump] using h₂,
        fun k => by simpa using h₃ k⟩

theorem recordOperation_spec (g : Globals) (result : OpResult) :
    Spec (· = g) (recordOperation result)
      (fun _ => (· = { g with stats := g.stats.record result.type result.success }))
      (fun _ _ => False) :=
  Spec.modifyState fun _ hs => hs ▸ rfl

/-! ## Sequential mode -/

theorem creationSequential_spec (n : Nat) :
    Spec (CreationTally 0) (creationSequential n) (fun _ => CreationTally n)
      (fun r _ => ReadIdError r) := by
  simpa using Spec.forM (fun _ k => Spec.bind (Spec.liftProc fun _ _ h => h)
    fun result => recordCreation_spec k result) (List.range n) 0

theorem operationsSequential_spec (n : Nat) (g₀ : Globals) :
    Spec (· = g₀) (operationsSequential n)
      (fun results g => results.length = n ∧ (∀ p ∈ results, p.2.type = p.1) ∧
        g = { g₀ with stats := g₀.stats.tally (results.map Prod.snd) })
      (fun _ _ => False) := by
  induction n generalizing g₀ with
  | zero => exact Spec.pure fun _ hs => ⟨rfl, List.forall_mem_nil _, hs⟩
  | succ n ih =>
    refine Spec.bind_liftProc fun opType => Spec.bind_get ?_
    refine Spec.bind (Spec.liftProc_always (performOperation_type opType _)) fun result => ?_
    refine Spec.assume fun htype => Spec.bind_modify (Spec.bind (ih _) fun rest => ?_)
    refine Spec.pure fun g ⟨hlen, htypes, hg⟩ => ⟨by simp [hlen], ?_, hg⟩
    exact List.forall_mem_cons.2 ⟨htype, htypes⟩

/-! ## Parallel mode -/

section Pools

variable {env : Env} {workers n : Nat} {w : World}

theorem creationPool_spec {s : Pool Nat CreateResult Globals}
    (hrun : Pool.Runs env (creationExecutor workers) (Pool.init n Globals.initial w) s)
    (hfin : s.Finished) :
    (s.raised = none → CreationTally n s.globals) ∧ ∀ r, s.raised = some r → ReadIdError r := by
  have hr := hrun.reachable (fun _ _ => True) (fun c g => CreationTally c.length g)
    (fun r _ => ReadIdError r) (fun _ => Proc.always_of_forall (fun _ => trivial) _)
    (fun c _ b _ => by simpa using recordCreation_spec c.length b) creationTally_initial
  refine ⟨fun hmain => ?_, fun r hraised => hr.raised _ _ _ hraised⟩
  obtain ⟨hperm, hlen, -, htally⟩ := hr.finished _ _ _ hfin hmain
  rwa [← hlen, ← hperm.length_eq, List.length_map]

/-- The operations pool never raises.  At its end every submitted future has been
consumed once, each with a result of the kind it was submitted with, and the
counters are the tally of the results in the order `as_completed` yielded them. -/
theorem operationsPool_spec {walletIds : List Json} {g₀ : Globals}
    {s : Pool OpType OpResult Globals}
    (hrun : Pool.Runs env (operationsExecutor workers walletIds) (Pool.init n g₀ w) s)
    (hfin : s.Finished) :
    s.raised = none ∧ (s.collected.map Prod.fst).Perm s.submitted ∧ s.submitted.length = n ∧
      (∀ p ∈ s.collected, p.2.type = p.1) ∧
      s.globals = { g₀ with stats := g₀.stats.tally (s.collected.map Prod.snd) } := by
  have hr := hrun.reachable (fun t b => b.type = t)
    (fun c g => g = { g₀ with stats := g₀.stats.tally (c.map Prod.snd) }) (fun _ _ => False)
    (fun _ => Proc.Always.bind (Proc.always_of_forall (fun _ => trivial) _)
      fun opType _ => performOperation_type opType walletIds)
    (fun c t b _ => (recordOperation_spec _ b).mono (fun _ h => h)
      (fun _ _ h => by simp [h, Stats.tally_append_singleton]) fun _ _ h => h)
    rfl
  have hmain : s.raised = none := by
    cases h : s.raised with
    | none => rfl
    | some r => exact (hr.raised _ _ _ h).elim
  exact ⟨hmain, hr.finished _ _ _ hfin hmain⟩

end Pools

/-! ## After the operations -/

theorem verifyLedgers_spec (g : Globals) :
    Spec (· = g) verifyLedgers (fun _ => (· = g)) (fun r s => s = g ∧ SliceError r) := by
  refine Spec.bind_get ?_
  simp only [sample_of_le (Nat.min_le_right 5 _)]
  refine Spec.bind_liftProc fun sampleWallets => ?_
  refine Spec.forM (I := fun _ => (· = g)) (fun walletId _ => ?_) sampleWallets 0
  refine Spec.tryExcept (B := fun r s => s = g ∧ ∃ e, r = .exception e) ?_ (fun _ => ?_)
    fun _ _ ⟨_, _, h⟩ => nomatch h
  · exact Spec.bind Spec.liftPy_frame fun _ => Spec.bind Spec.evalExpr_frame fun _ =>
      Spec.bind Spec.evalExpr_frame fun _ => Spec.bind Spec.evalExpr_frame fun _ =>
      Spec.bind Spec.evalExpr_frame fun _ => Spec.pure fun _ h => h
  · exact Spec.discard (Spec.evalExpr (fun _ _ _ hs => hs.1)
      fun _ he _ hs => ⟨hs.1, (Json.sliceTo_error he).imp (congrArg _) (congrArg _)⟩)

theorem finish_spec (g : Globals) (opsStart opsEnd : ℚ) :
    Spec (· = g) (finish opsStart opsEnd) (fun _ => (· = g))
      (fun r s => s = g ∧ (SliceError r ∨ r = .exception .zeroDivisionError)) := by
  refine Spec.bind ((verifyLedgers_spec g).mono (fun _ h => h) (fun _ _ h => h)
    fun _ _ ⟨hs, hr⟩ => ⟨hs, .inl hr⟩) fun _ => Spec.evalExpr (fun _ _ _ hs => hs) ?_
  intro e he _ hs
  split_ifs at he
  cases he
  exact ⟨hs, .inr rfl⟩

end WalletLoadTest.QuickLoadTest
