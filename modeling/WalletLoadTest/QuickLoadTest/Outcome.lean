import WalletLoadTest.Python.PoolTermination
import WalletLoadTest.QuickLoadTest.Counting

/-!
# How `quick_load_test.main` ends

In both modes, `main()` ends normally or raises one of few exceptions: the pool's
`ValueError` for `--workers` at most 0, `result["data"]["id"]` on a created
wallet's data, the slicing of a sampled wallet id in the ledger report, and
`ZeroDivisionError` when the clock did not advance across the operations.
No failure of a request escapes.  Whenever the run gets to the final
statistics they count every wallet creation and every operation once.

When no wallet was created, `main()` returns: the process exits with status 0.
-/

namespace WalletLoadTest.QuickLoadTest

open Python Script

/-- What the final statistics report, given the operations performed: every
wallet creation counted once, one entry of `created_wallets` per success, and
every operation counted once, under the kind it was drawn or submitted with. -/
def Reported (wallets operations : Nat) (results : List (OpType × OpResult)) (g : Globals) :
    Prop :=
  g.stats.wallets.success + g.stats.wallets.failed = wallets ∧
    g.createdWallets.length = g.stats.wallets.success ∧
    results.length = (if g.createdWallets.isEmpty then 0 else operations) ∧
    (∀ p ∈ results, p.2.type = p.1) ∧
    (∀ k, g.stats.attempts k = (results.map Prod.fst).count k) ∧
    g.stats = { Stats.zero with wallets := g.stats.wallets }.tally (results.map Prod.snd)

theorem reported_of_creation (operations : Nat) (results : List (OpType × OpResult)) {n : Nat}
    {g : Globals} (hc : CreationTally n g)
    (hlen : results.length = if g.createdWallets.isEmpty then 0 else operations)
    (htypes : ∀ p ∈ results, p.2.type = p.1) :
    Reported n operations results { g with stats := g.stats.tally (results.map Prod.snd) } := by
  obtain ⟨h₁, h₂, h₃⟩ := hc
  have hz : g.stats = { Stats.zero with wallets := g.stats.wallets } :=
    Stats.eq_of_get rfl fun k => by cases k <;> exact h₃ _
  have hkinds : (results.map Prod.snd).map OpResult.type = results.map Prod.fst := by
    rw [List.map_map]
    exact List.map_congr_left htypes
  refine ⟨by simpa using h₁, by simpa using h₂, hlen, htypes, fun k => ?_, ?_⟩
  · simp only [Stats.attempts_tally, hkinds]
    simp [Stats.attempts, h₃ k]
  · simp only [Stats.tally_wallets]
    rw [← hz]

/-- Function `main()` without `--fast`, split at its operations loop: how a run from
`w` ends, with the operations the loop performed, each with the kind it drew.
`mainSequential_runs` shows that every run of `mainSequential` is one of these. -/
inductive MainSequential (env : Env) (args : Args) (w : World) :
    Except Raise Unit → Globals → List (OpType × OpResult) → World → Prop
  | creationRaised {r : Raise} {g : Globals} {w₁ : World}
      (hc : (creationSequential args.wallets.toNat).exec env Globals.initial (w.readIn env).2 =
        ((.error r, g), w₁)) :
      MainSequential env args w (.error r) g [] w₁
  | noWallets {g : Globals} {w₁ : World}
      (hc : (creationSequential args.wallets.toNat).exec env Globals.initial (w.readIn env).2 =
        ((.ok (), g), w₁)) (hempty : g.createdWallets = []) :
      MainSequential env args w (.ok ()) g [] (w₁.readIn env).2
  | completed {g g' g'' : Globals} {w₁ w₂ w' : World} {results : List (OpType × OpResult)}
      {r : Except Raise Unit}
      (hc : (creationSequential args.wallets.toNat).exec env Globals.initial (w.readIn env).2 =
        ((.ok (), g), w₁)) (hne : g.createdWallets ≠ [])
      (hops : (operationsSequential args.operations.toNat).exec env g
        ((w₁.readIn env).2.readIn env).2 = ((.ok results, g'), w₂))
      (hfinish : (finish ((w₁.readIn env).2.readIn env).1 (w₂.readIn env).1).exec env g'
        (w₂.readIn env).2 = ((r, g''), w')) :
      MainSequential env args w r g'' results w'

theorem mainSequential_runs (args : Args) (env : Env) (w : World) :
    ∃ results, MainSequential env args w
      (((mainSequential args).exec env Globals.initial w).1.1.map fun _ => ())
      ((mainSequential args).exec env Globals.initial w).1.2 results
      ((mainSequential args).exec env Globals.initial w).2 := by
  rw [mainSequential, exec_bind, exec_liftProc]
  dsimp only
  rw [exec_bind]
  generalize hc : (creationSequential args.wallets.toNat).exec env Globals.initial _ = c
  obtain ⟨⟨_ | _, g⟩, w₁⟩ := c
  · exact ⟨[], .creationRaised hc⟩
  rw [exec_bind, exec_liftProc, exec_bind, exec_get]
  dsimp only
  by_cases hempty : g.createdWallets.isEmpty
  · rw [if_pos hempty]
    exact ⟨[], .noWallets hc (List.isEmpty_iff.1 hempty)⟩
  rw [if_neg hempty, pure_bind, exec_bind, exec_liftProc]
  dsimp only
  rw [exec_bind]
  generalize hq : (operationsSequential args.operations.toNat).exec env g _ = q
  obtain ⟨⟨_ | results, g'⟩, w₂⟩ := q
  · exact ((operationsSequential_spec _ g).ends rfl hq).elim
  dsimp only
  rw [exec_bind, exec_liftProc]
  dsimp only
  rw [exec_bind]
  generalize hf : (finish _ _).exec env g' _ = f
  obtain ⟨⟨_ | _, g''⟩, w'⟩ := f <;> exact ⟨results, .completed hc (by simpa using hempty) hq hf⟩

theorem MainSequential.reported {env : Env} {args : Args} {w w' : World} {r : Except Raise Unit}
    {g : Globals} {results : List (OpType × OpResult)} (h : MainSequential env args w r g results w')
    (hr : r = .ok () ∨ r = .error (.exception .zeroDivisionError)) :
    Reported args.wallets.toNat args.operations.toNat results g := by
  have creation := fun {c : Except Raise Unit} {g w₁} (hc : (creationSequential args.wallets.toNat).exec
      env Globals.initial (w.readIn env).2 = ((c, g), w₁)) =>
    (creationSequential_spec args.wallets.toNat).ends creationTally_initial hc
  cases h with
  | creationRaised hc =>
    rcases creation hc with h | h <;> rcases hr with hr | hr <;> cases hr <;> cases h
  | noWallets hc hempty =>
    exact reported_of_creation _ [] (creation hc) (by simp [hempty]) (List.forall_mem_nil _)
  | @completed g₁ _ _ _ _ _ _ _ hc hne hops hfinish =>
    obtain ⟨hlen, htypes, rfl⟩ := (operationsSequential_spec _ g₁).ends rfl hops
    have hend := (finish_spec _ _ _).ends rfl hfinish
    have hg : g = { g₁ with stats := g₁.stats.tally (results.map Prod.snd) } := by
      rcases r with _ | _
      exacts [hend.1, hend]
    rw [hg]
    exact reported_of_creation _ _ (creation hc) (by rw [hlen, if_neg (by simpa using hne)]) htypes

/-- How `main()` with `--fast` can end: normally with the counts reported, or by
one of the exceptions of the sequential mode, or by the pool's `ValueError`. -/
theorem mainFast_spec {env : Env} {args : Args} {w w' : World} {r : Except Raise Unit}
    {g : Globals} {results : List (OpType × OpResult)}
    (h : MainFast env args w r g results w') :
    (r = .ok () → Reported args.wallets.toNat args.operations.toNat results g) ∧
      ∀ e, r = .error e → (e = .exception .valueError ∧ args.workers ≤ 0) ∨ ReadIdError e ∨
        ((SliceError e ∨ e = .exception .zeroDivisionError) ∧
          Reported args.wallets.toNat args.operations.toNat results g) := by
  cases h with
  | refused hw => exact ⟨nofun, fun _ he => .inl ⟨(Except.error.inj he).symm, hw⟩⟩
  | creationRaised _ hrun hfin hr =>
    exact ⟨nofun, fun _ he => .inr (.inl ((Except.error.inj he) ▸
      (creationPool_spec hrun hfin).2 _ hr))⟩
  | noWallets _ hrun hfin hr hempty =>
    refine ⟨fun _ => ?_, nofun⟩
    exact reported_of_creation _ [] ((creationPool_spec hrun hfin).1 hr)
      (by simp [hempty]) (List.forall_mem_nil _)
  | operationsRaised _ _ _ _ _ hrun' hfin' hr' =>
    rw [(operationsPool_spec hrun' hfin').1] at hr'
    cases hr'
  | @completed s s' r g w' _ hrun hfin hr hne hrun' hfin' _ hfinish =>
    obtain ⟨-, hperm, hsub, htypes, hglobals⟩ := operationsPool_spec hrun' hfin'
    have hrep : Reported args.wallets.toNat args.operations.toNat s'.collected s'.globals :=
      hglobals ▸ reported_of_creation _ _ ((creationPool_spec hrun hfin).1 hr)
        (by simp [List.isEmpty_iff, hne, ← hsub, ← hperm.length_eq]) htypes
    have hend := (finish_spec s'.globals _ _).ends rfl hfinish
    rcases r with e | _
    · obtain ⟨rfl, he⟩ := hend
      exact ⟨nofun, fun _ h => .inr (.inr ⟨(Except.error.inj h) ▸ he, hrep⟩)⟩
    · exact ⟨fun _ => (show g = s'.globals from hend) ▸ hrep, nofun⟩

/-- Whenever a run gets to the final statistics, in either mode and whatever
order `as_completed` yields the futures in, the counters are those of `Reported`
for the operations that run performed: in the sequential mode those of its loop,
with `--fast` the futures in the order `as_completed` yielded them. -/
theorem final_statistics_reported (args : Args) :
    (∀ env w, ∃ results, MainSequential env args w
      (((mainSequential args).exec env Globals.initial w).1.1.map fun _ => ())
      ((mainSequential args).exec env Globals.initial w).1.2 results
      ((mainSequential args).exec env Globals.initial w).2) ∧
    (∀ {env : Env} {w w' : World} {r : Except Raise Unit} {g : Globals}
      {results : List (OpType × OpResult)}, MainSequential env args w r g results w' →
      r = .ok () ∨ r = .error (.exception .zeroDivisionError) →
      Reported args.wallets.toNat args.operations.toNat results g) ∧
    ∀ {env : Env} {w w' : World} {r : Except Raise Unit} {g : Globals}
      {results : List (OpType × OpResult)}, MainFast env args w r g results w' →
      r = .ok () ∨ r = .error (.exception .zeroDivisionError) →
      Reported args.wallets.toNat args.operations.toNat results g := by
  refine ⟨mainSequential_runs args, fun h hr => h.reported hr, fun h hr => ?_⟩
  obtain ⟨hok, herr⟩ := mainFast_spec h
  rcases hr with rfl | rfl
  · exact hok rfl
  · rcases herr _ rfl with h | h | ⟨_, hrep⟩
    · cases h.1
    · rcases h with h | h <;> cases h
    · exact hrep

/-- Every request fails: the one wallet is not created, and `main()` returns. -/
def failingService : Env := ⟨fun _ => ⟨0, 0⟩, fun _ => 0, fun _ _ => .ok ⟨500, none⟩⟩

theorem mainSequential_without_wallets_exits_zero :
    exitStatus ((mainSequential ⟨1, 1, false, 10⟩).exec failingService Globals.initial
        World.start).1.1 = 0 ∧
      ((mainSequential ⟨1, 1, false, 10⟩).exec failingService Globals.initial
        World.start).1.2.createdWallets = [] ∧
      ((mainSequential ⟨1, 1, false, 10⟩).exec failingService Globals.initial
        World.start).2.requests.map Request.endpoint = [.createWallet] :=
  ⟨rfl, rfl, rfl⟩

def payloadText (req : Request) (key : String) : Option String :=
  match req.body.lookup key with
  | some (.str text) => some text
  | _ => none

/-- With `--wallets 2` and a clock that stays in one millisecond, both create
requests carry the same `walletId` and the same `Idempotency-Key`. -/
theorem identifiers_collide_within_one_millisecond :
    ((mainSequential ⟨2, 0, false, 10⟩).exec failingService Globals.initial World.start).2.requests.map
        (fun req => (req.endpoint, req.idempotencyKey, payloadText req "walletId")) =
      [(.createWallet, some "idem-0-1000", some "wallet-0-1000"),
        (.createWallet, some "idem-0-1000", some "wallet-0-1000")] := by
  with_unfolding_all decide

/-- With `--fast` and at least one worker, both pools of `main()` end under every
interleaving of their threads: no run is infinite, a run that cannot go on has
finished, and from any state the `with` block can be run to its end.  With
`--workers` at most 0 the pool is refused before (`MainFast.eq_refused`). -/
theorem fast_pools_always_end {workers : Nat} (hw : 0 < workers) (env : Env) (walletIds : List Json) :
    Pool.AlwaysEnds env (creationExecutor workers) ∧
      Pool.AlwaysEnds env (operationsExecutor workers walletIds) :=
  ⟨Pool.alwaysEnds hw, Pool.alwaysEnds hw⟩

theorem fast_pools_always_end_one_worker :
    0 < 1 ∧ Pool.AlwaysEnds failingService (creationExecutor 1) ∧
      Pool.AlwaysEnds failingService (operationsExecutor 1 [.str "a"]) :=
  ⟨by decide, fast_pools_always_end (by decide) failingService [.str "a"]⟩

end WalletLoadTest.QuickLoadTest
