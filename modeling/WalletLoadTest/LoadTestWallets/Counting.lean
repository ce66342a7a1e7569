import WalletLoadTest.LoadTestWallets.Main
import WalletLoadTest.Python.Spec

/-!
# The counters of `load_test_wallets.py`

The creation loop counts every pass exactly once, as a created or a failed
wallet, and appends a record exactly for the created ones.

A pass of the operations loop counts the operation it drew, but not always
once: after `<kind>s_success += 1` the progress bar's suffix slices
`wallet["id"]`, and when the service gave an id that is not a string (or a
list) the slice raises inside the same `try`, whose `except` then counts the
operation as failed as well.
-/

namespace WalletLoadTest.LoadTestWallets

open Python Script

def Stats.operationsCounted (s : Stats) : Nat :=
  s.creditsSuccess + s.creditsFailed + s.debitsSuccess + s.debitsFailed + s.transfersSuccess +
    s.transfersFailed

/-- After `k` passes of the creation loop, before any operation. -/
def CreationTally (k : Nat) (g : Globals) : Prop :=
  g.stats.walletsCreated + g.stats.walletsFailed = k ∧
    g.createdWallets.length = g.stats.walletsCreated ∧ g.stats.operationsCounted = 0

theorem creationIteration_spec (k : Nat) :
    Spec (CreationTally k) creationIteration (fun _ => CreationTally (k + 1)) (fun _ _ => False) := by
  refine Spec.bind (Spec.liftProc fun _ _ h => h) fun walletId => ?_
  refine Spec.bind (Spec.liftProc fun _ _ h => h) fun ownerId => ?_
  refine Spec.bind (Spec.liftProc fun _ _ h => h) fun initialBalance => ?_
  refine Spec.tryExcept (B := fun r g => CreationTally k g ∧ ∃ e, r = .exception e) ?_
    (fun _ => Spec.modifyState fun g ⟨⟨h₁, h₂, h₃⟩, _⟩ => ⟨by simp; omega, by simpa using h₂, h₃⟩)
    fun _ _ ⟨_, _, h⟩ => nomatch h
  refine Spec.bind Spec.liftPy_frame fun wallet => ?_
  refine Spec.bind Spec.evalExpr_frame fun record => ?_
  refine Spec.bind (Spec.modifyState (Q := fun _ g => g.stats.walletsCreated +
    g.stats.walletsFailed = k ∧ g.createdWallets.length = g.stats.walletsCreated + 1 ∧
    g.stats.operationsCounted = 0) fun g ⟨h₁, h₂, h₃⟩ => ⟨h₁, by simp [h₂], h₃⟩) fun _ => ?_
  exact Spec.modifyState fun g ⟨h₁, h₂, h₃⟩ => ⟨by simp; omega, by simpa using h₂, h₃⟩

/-- The creation loop: `wallets_created + wallets_failed = NUM_WALLETS` and
`len(created_wallets) = wallets_created`, whatever the service does. -/
theorem creationLoop_spec :
    Spec (CreationTally 0) ((List.range numWallets).forM fun _ => creationIteration)
      (fun _ => CreationTally numWallets) (fun _ _ => False) := by
  simpa using Spec.forM (fun _ k => creationIteration_spec k) (List.range numWallets) 0

/-! ## The operations loop -/

theorem discard_eq_error {x : Except Exc α} {e : Exc} (h : (discard x : Except Exc PUnit) = .error e) :
    x = .error e := by
  cases x with
  | error e' => cases h; rfl
  | ok a => cases h

def PassCounted (k : Operation) (g₀ g : Globals) : Prop :=
  g = g₀.bumpFailed k ∨ g = g₀.bumpSuccess k ∨
    (g = (g₀.bumpSuccess k).bumpFailed k ∧ ∃ w ∈ g₀.createdWallets, ¬ w.id.Sliceable)

def BodyRaised (k : Operation) (g₀ : Globals) (r : Raise) (g : Globals) : Prop :=
  (∃ e, r = .exception e) ∧
    (g = g₀ ∨ (g = g₀.bumpSuccess k ∧ ∃ w ∈ g₀.createdWallets, ¬ w.id.Sliceable))

section Operations

variable (parseFloat : String → Except Exc PyFloat) (i : Nat)

theorem operationBody_spec (g₀ : Globals) (k : Operation) :
    Spec (· = g₀) (operationBody parseFloat i k)
      (fun _ g => g = g₀.bumpFailed k ∨ g = g₀.bumpSuccess k) (BodyRaised k g₀) := by
  have before : ∀ e, BodyRaised k g₀ (.exception e) g₀ := fun e => ⟨⟨e, rfl⟩, .inl rfl⟩
  have skip : Spec (· = g₀) (modify (·.bumpFailed k) : Script Globals Unit)
      (fun _ g => g = g₀.bumpFailed k ∨ g = g₀.bumpSuccess k) (BodyRaised k g₀) :=
    Spec.modifyState fun _ hs => .inl (hs ▸ rfl)
  have report : ∀ (x : Except Exc Json), (∀ e, x = .error e → ∃ w ∈ g₀.createdWallets,
      ¬ w.id.Sliceable) → Spec (· = g₀) (modify (·.bumpSuccess k) >>= fun _ =>
        Script.evalExpr (discard x)) (fun _ g => g = g₀.bumpFailed k ∨ g = g₀.bumpSuccess k)
        (BodyRaised k g₀) := fun x hx =>
    Spec.bind_modify (Spec.evalExpr (fun _ _ _ hs => .inr hs)
      fun e he _ hs => ⟨⟨e, rfl⟩, .inr ⟨hs, hx e (discard_eq_error he)⟩⟩)
  cases k with
  | credit =>
    refine Spec.bind_get (Spec.bind_choice (fun wallet hw => ?_) fun _ => before _)
    refine Spec.bind_liftProc fun _ => Spec.bind_liftPy (fun _ => ?_) before
    exact report _ fun _ he => ⟨wallet, hw, Json.not_sliceable_of_sliceTo_eq_error he⟩
  | debit =>
    refine Spec.bind_get (Spec.bind_choice (fun wallet hw => ?_) fun _ => before _)
    refine Spec.bind_liftPy (fun _ => Spec.bind_evalExpr (fun balance _ => ?_)
      fun e _ => before e) before
    rcases maxDebit balance with c | _ | _ | _
    · by_cases hc : 10 < c
      · simp only [hc, if_true]
        refine Spec.bind_liftProc fun _ => Spec.bind_liftPy (fun _ => ?_) before
        exact report _ fun _ he => ⟨wallet, hw, Json.not_sliceable_of_sliceTo_eq_error he⟩
      · simpa [hc] using skip
    all_goals exact skip
  | transfer =>
    refine Spec.bind_get ?_
    by_cases hn : g₀.createdWallets.length < 2
    · simpa [hn] using skip
    simp only [hn, if_false]
    refine Spec.bind_choice (fun src hsrc => ?_) fun _ => before _
    refine Spec.bind_choice (fun dst hdst => ?_) fun _ => before _
    refine Spec.bind_liftPy (fun _ => Spec.bind_evalExpr (fun balance _ => ?_)
      fun e _ => before e) before
    rcases maxTransfer balance with c | _ | _ | _
    · by_cases hc : 10 < c
      · simp only [hc, if_true]
        refine Spec.bind_liftProc fun _ => Spec.bind_liftPy (fun _ => ?_) before
        refine report _ fun e he => ?_
        rcases hs : src.id.sliceTo 10 with e' | _
        · exact ⟨src, hsrc, Json.not_sliceable_of_sliceTo_eq_error hs⟩
        · simp only [hs, bind, Except.bind] at he
          exact ⟨dst, (List.mem_filter.mp hdst).1, Json.not_sliceable_of_sliceTo_eq_error he⟩
      · simpa [hc] using skip
    all_goals exact skip

theorem operationAttempt_spec (g₀ : Globals) (k : Operation) :
    Spec (· = g₀) (operationAttempt parseFloat i k) (fun _ => PassCounted k g₀)
      (fun _ _ => False) :=
  Spec.tryExcept ((operationBody_spec parseFloat i g₀ k).mono (fun _ h => h)
      (fun _ _ h => h.elim .inl fun h => .inr (.inl h)) fun _ _ h => h)
    (fun _ => Spec.modifyState fun g ⟨_, hg⟩ => by
      rcases hg with rfl | ⟨rfl, hw⟩
      · exact .inl rfl
      · exact .inr (.inr ⟨rfl, hw⟩))
    (fun _ _ ⟨⟨_, h⟩, _⟩ => nomatch h)

end Operations

def answersOk : Env := ⟨fun _ => ⟨0, 0⟩, fun _ => 0, fun _ _ => .ok ⟨200, some (.obj [])⟩⟩

/-- The service gave the one created wallet the id `7`.  The pass draws a credit,
the credit succeeds, and the progress bar's `wallet["id"][:15]` raises: the pass
is counted as a success and as a failure. -/
theorem operationIteration_counts_credit_twice (parseFloat : String → Except Exc PyFloat) :
    (((operationIteration parseFloat 0).run.run
        ⟨Stats.zero, [⟨.int 7, .str "user-1000", .int 100⟩]⟩).run answersOk World.start).1.2.stats =
      { Stats.zero with creditsSuccess := 1, creditsFailed := 1 } := rfl

end WalletLoadTest.LoadTestWallets
