import WalletLoadTest.QuickLoadTest.Acknowledged

/-!
# The load of the operations phase

`perform_operation` sends no request when `random.choice` finds no wallet or a
transfer finds no destination, and the main thread still counts the attempt as
a failure.  When the created wallets leave every transfer a destination (at
least two ids, each with another that `!=` tells apart from it), every call
makes exactly one request, on the route of its kind.  Then the attempts the
final statistics count for each kind, successes and failures together, are the
requests sent on its route, and the phase sends exactly `--operations`
requests: in the sequential loop, and with `--fast` whatever the interleaving of
the pool's threads.  With fewer than two wallets, on the other hand, no transfer
is ever sent, and every transfer drawn is counted as a failure.
-/

namespace WalletLoadTest.QuickLoadTest

open Python Script

/-- Wallet ids among which a transfer always finds a destination: at least two,
and each has another that `!=` tells apart from it. -/
def HasPartners (walletIds : List Json) : Prop :=
  2 ≤ walletIds.length ∧ ∀ a ∈ walletIds, ∃ b ∈ walletIds, b.pyEq a = false

instance : DecidablePred HasPartners := fun walletIds =>
  inferInstanceAs (Decidable (2 ≤ walletIds.length ∧ ∀ a ∈ walletIds, ∃ b ∈ walletIds, b.pyEq a = false))

/-- The requests of `es` on the route of `k`. -/
def requestsOn (k : OpType) (es : List Exchange) : Nat :=
  es.countP fun e => decide (e.1.endpoint = k.endpoint)

/-! ## One call makes exactly one request -/

section Sends

variable {walletIds : List Json}

theorem singleWalletOp_sends_once {kind : OpType} {endpoint : Endpoint} (maxAmount : Nat)
    (description : String) (hne : walletIds ≠ []) :
    (singleWalletOp kind endpoint maxAmount description walletIds).run.Guarded FirstRequest
      (fun _ o => o.isSome) none := by
  refine Py.run_guarded_bind_choice hne fun _ _ => ?_
  refine Py.run_guarded_bind_lift (fun _ => trivial) fun _ => ?_
  refine Py.run_guarded_bind_lift (fun _ _ => trivial) fun _ => ?_
  exact Py.run_guarded_bind_request rfl (fun _ => rfl) fun _ =>
    Py.run_guarded_bind_ofExcept (fun _ _ => rfl) fun _ _ => rfl

theorem transferOp_sends_once (hids : HasPartners walletIds) :
    (transferOp walletIds).run.Guarded FirstRequest (fun _ o => o.isSome) none := by
  rw [transferOp, if_neg (Nat.not_lt.2 hids.1)]
  refine Py.run_guarded_bind_choice (List.ne_nil_of_length_pos (by have := hids.1; omega))
    fun source hsource => ?_
  obtain ⟨b, hb, hdiff⟩ := hids.2 source hsource
  refine Py.run_guarded_bind_choice (List.ne_nil_of_mem (List.mem_filter.2 ⟨hb, by simp [hdiff]⟩))
    fun _ _ => ?_
  refine Py.run_guarded_bind_lift (fun _ => trivial) fun _ => ?_
  refine Py.run_guarded_bind_lift (fun _ _ => trivial) fun _ => ?_
  exact Py.run_guarded_bind_request rfl (fun _ => rfl) fun _ =>
    Py.run_guarded_bind_ofExcept (fun _ _ => rfl) fun _ _ => rfl

theorem performOperation_sends_once (hids : HasPartners walletIds) (opType : OpType) :
    (performOperation opType walletIds).AtMostOnce fun _ o => o.isSome := by
  have hne : walletIds ≠ [] := List.ne_nil_of_length_pos (by have := hids.1; omega)
  have h : Proc.Guarded FirstRequest (fun _ o => o.isSome) none (match opType with
      | .credit => singleWalletOp .credit .credit 500 "Load test credit" walletIds
      | .debit => singleWalletOp .debit .debit 200 "Load test debit" walletIds
      | .transfer => transferOp walletIds).run := by
    cases opType
    · exact singleWalletOp_sends_once _ _ hne
    · exact singleWalletOp_sends_once _ _ hne
    · exact transferOp_sends_once hids
  exact h.bind fun r _ hr => by rcases r with _ | _ <;> exact hr

def SentAndReported (opType : OpType) (result : OpResult) (o : Option Exchange) : Prop :=
  Reports opType result o ∧ o.isSome

theorem performOperation_sentAndReported (hids : HasPartners walletIds) (opType : OpType) :
    (performOperation opType walletIds).AtMostOnce (SentAndReported opType) :=
  (performOperation_atMostOnce opType walletIds).and (performOperation_sends_once hids opType)

theorem operationsExecutor_sentAndReported (hids : HasPartners walletIds) (workers i : Nat) :
    ((operationsExecutor workers walletIds).submit i).Sends (fun _ => False) ∧
      ((operationsExecutor workers walletIds).submit i).Always fun p => p.2.AtMostOnce (SentAndReported p.1) :=
  ⟨fun _ => trivial, fun _ => performOperation_sentAndReported hids _⟩

end Sends

/-! ## Counting the requests of the calls -/

theorem requestsOn_reduceOption (k : OpType) :
    ∀ calls : List ((OpType × OpResult) × Option Exchange), (∀ p ∈ calls, SentAndReported p.1.1 p.1.2 p.2) →
      requestsOn k (calls.map Prod.snd).reduceOption = ((calls.map fun p => p.1.2).map OpResult.type).count k ∧
        (calls.map Prod.snd).reduceOption.length = calls.length
  | [], _ => ⟨rfl, rfl⟩
  | ((t, result), o) :: calls, h => by
    obtain ⟨⟨hroute, htype, -⟩, hsome⟩ : SentAndReported t result o := h _ (List.mem_cons_self _ _)
    obtain ⟨e, rfl⟩ := Option.isSome_iff_exists.1 hsome
    obtain ⟨ih, hlen⟩ := requestsOn_reduceOption k calls fun p hp => h p (List.mem_cons_of_mem _ hp)
    simp only [Option.all_some, decide_eq_true_eq] at hroute
    simp only [List.map_cons, List.reduceOption_cons_of_some, List.length_cons, hlen, requestsOn,
      List.countP_cons, List.count_cons, htype, hroute, OpType.endpoint_eq_iff] at ih ⊢
    simp [ih, beq_iff_eq]

/-- When the created wallets leave every transfer a destination, every operation
the final statistics count, success or failure, is one request on the route of
its kind: the operations phase sends exactly `--operations` requests, in the
sequential loop and, with `--fast`, whatever the interleaving of the pool's
threads and the order `as_completed` yields the futures in. -/
theorem attempts_count_requests {walletIds : List Json} (hids : HasPartners walletIds) :
    (∀ (n : Nat) (env : Env) (g : Globals) (w : World), g.createdWallets = walletIds →
      ∃ new, ((operationsSequential n).exec env g w).2.exchanges = w.exchanges ++ new ∧ new.length = n ∧
        ∀ k, ((operationsSequential n).exec env g w).1.2.stats.attempts k = g.stats.attempts k + requestsOn k new) ∧
    ∀ {env : Env} {workers n : Nat} {g : Globals} {w : World} {s : Pool OpType OpResult Globals},
      Pool.Runs env (operationsExecutor workers walletIds) (Pool.init n g w) s → s.Finished →
        ∃ new, s.world.exchanges = w.exchanges ++ new ∧ new.length = n ∧
          ∀ k, s.globals.stats.attempts k = g.stats.attempts k + requestsOn k new := by
  refine ⟨fun n env g w hg => ?_, fun {env workers n g w s} hrun hfin => ?_⟩
  · obtain ⟨calls, hlen, hcalls, hexec, hw⟩ :=
      operationsSequential_calls (performOperation_sentAndReported hids) env n g w hg
    refine ⟨_, hw, by rw [(requestsOn_reduceOption .credit calls hcalls).2, hlen], fun k => ?_⟩
    rw [hexec]
    dsimp only
    rw [Stats.attempts_tally, (requestsOn_reduceOption k calls hcalls).1]
  · obtain ⟨hmain, hperm, hsubmitted, -, hglobals⟩ := operationsPool_spec hrun hfin
    obtain ⟨calls, hcalls, hsent, new, hw, hnew⟩ :=
      (hrun.exchanged (operationsExecutor_sentAndReported hids workers) fun _ => sends_modify _).finished hfin
    rw [hfin.2.2.2.resolve_right (not_not.2 hmain), List.nil_append] at hcalls
    refine ⟨new, hw, ?_, fun k => ?_⟩
    · rw [hnew.length_eq, (requestsOn_reduceOption .credit calls hsent).2, ← List.length_map calls Prod.fst,
        hcalls, ← List.length_map s.collected Prod.fst, hperm.length_eq, hsubmitted]
    · rw [hglobals, Stats.attempts_tally, requestsOn, hnew.countP_eq, ← requestsOn,
        (requestsOn_reduceOption k calls hsent).1, ← hcalls]
      simp only [List.map_map]
      rfl

/-- Three sequential operations between two wallets, the service accepting every
request: three requests, one per counted attempt. -/
theorem attempts_count_requests_two_wallets :
    HasPartners twoWallets.createdWallets ∧
      ∃ new, ((operationsSequential 3).exec acceptingService twoWallets World.start).2.exchanges =
          World.start.exchanges ++ new ∧ new.length = 3 ∧
        ∀ k, ((operationsSequential 3).exec acceptingService twoWallets World.start).1.2.stats.attempts k =
          twoWallets.stats.attempts k + requestsOn k new :=
  ⟨by decide, (attempts_count_requests (by decide)).1 3 acceptingService twoWallets World.start rfl⟩

/-! ## Fewer than two wallets -/

def NoTransfer (opType : OpType) (result : OpResult) (o : Option Exchange) : Prop :=
  Reports opType result o ∧ (opType = .transfer → o = none ∧ result.success = false)

theorem performOperation_noTransfer {walletIds : List Json} (hids : walletIds.length < 2)
    (opType : OpType) : (performOperation opType walletIds).AtMostOnce (NoTransfer opType) := by
  refine (performOperation_atMostOnce opType walletIds).and ?_
  cases opType
  · exact (performOperation_atMostOnce _ walletIds).mono fun _ _ _ => nofun
  · exact (performOperation_atMostOnce _ walletIds).mono fun _ _ _ => nofun
  · rw [performOperation]
    simp only [transferOp, if_pos hids]
    exact fun _ => ⟨rfl, rfl⟩

theorem operationsExecutor_noTransfer {walletIds : List Json} (hids : walletIds.length < 2)
    (workers i : Nat) :
    ((operationsExecutor workers walletIds).submit i).Sends (fun _ => False) ∧
      ((operationsExecutor workers walletIds).submit i).Always fun p => p.2.AtMostOnce (NoTransfer p.1) :=
  ⟨fun _ => trivial, fun _ => performOperation_noTransfer hids _⟩

theorem noTransfer_requests (calls : List ((OpType × OpResult) × Option Exchange))
    (h : ∀ p ∈ calls, NoTransfer p.1.1 p.1.2 p.2) :
    requestsOn .transfer (calls.map Prod.snd).reduceOption = 0 := by
  refine List.countP_eq_zero.2 fun e he => ?_
  obtain ⟨p, hp, hpe⟩ := List.mem_map.1 (List.reduceOption_mem_iff.1 he)
  obtain ⟨⟨hroute, -⟩, htransfer⟩ := h p hp
  rw [hpe] at hroute htransfer
  simp only [Option.all_some, decide_eq_true_eq] at hroute
  by_cases ht : p.1.1 = .transfer
  · exact absurd (htransfer ht).1 (Option.some_ne_none e)
  · simpa [hroute, OpType.endpoint_eq_iff] using ht

theorem get_tally_noTransfer :
    ∀ (s : Stats) (calls : List ((OpType × OpResult) × Option Exchange)),
      (∀ p ∈ calls, NoTransfer p.1.1 p.1.2 p.2) →
        (s.tally (calls.map fun p => p.1.2)).get .transfer =
          ⟨(s.get .transfer).success, (s.get .transfer).failed + (calls.map fun p => p.1.1).count .transfer⟩
  | _, [], _ => rfl
  | s, ((t, result), o) :: calls, h => by
    obtain ⟨⟨-, htype, -⟩, htransfer⟩ := h _ (List.mem_cons_self _ _)
    rw [List.map_cons, Stats.tally_cons, get_tally_noTransfer _ calls fun p hp => h p (List.mem_cons_of_mem _ hp),
      Stats.get_record, htype, List.map_cons, List.count_cons]
    by_cases ht : t = .transfer
    · subst ht
      have hfailed : result.success = false := (htransfer rfl).2
      simp only [Stats.Counter.bump, hfailed, if_true, Bool.false_eq_true, if_false]
      exact congrArg _ (Nat.add_right_comm _ _ _)
    · simp [ht]

/-- With fewer than two created wallets, the operations phase sends no request to
`/transfer` and counts every transfer it draws as a failure: in the sequential
loop and, with `--fast`, whatever the interleaving of the pool's threads. -/
theorem transfers_abandoned_below_two_wallets {walletIds : List Json} (hids : walletIds.length < 2) :
    (∀ (n : Nat) (env : Env) (g : Globals) (w : World), g.createdWallets = walletIds →
      ∃ results new, ((operationsSequential n).exec env g w).1.1 = .ok results ∧
        ((operationsSequential n).exec env g w).2.exchanges = w.exchanges ++ new ∧
        requestsOn .transfer new = 0 ∧
        ((operationsSequential n).exec env g w).1.2.stats.get .transfer =
          ⟨(g.stats.get .transfer).success,
            (g.stats.get .transfer).failed + (results.map Prod.fst).count .transfer⟩) ∧
    ∀ {env : Env} {workers n : Nat} {g : Globals} {w : World} {s : Pool OpType OpResult Globals},
      Pool.Runs env (operationsExecutor workers walletIds) (Pool.init n g w) s → s.Finished →
        ∃ new, s.world.exchanges = w.exchanges ++ new ∧ requestsOn .transfer new = 0 ∧
          s.globals.stats.get .transfer =
            ⟨(g.stats.get .transfer).success, (g.stats.get .transfer).failed + s.submitted.count .transfer⟩ := by
  refine ⟨fun n env g w hg => ?_, fun {env workers n g w s} hrun hfin => ?_⟩
  · obtain ⟨calls, -, hcalls, hexec, hw⟩ :=
      operationsSequential_calls (performOperation_noTransfer hids) env n g w hg
    refine ⟨_, _, congrArg (·.1) hexec, hw, noTransfer_requests calls hcalls, ?_⟩
    rw [hexec, List.map_map]
    exact get_tally_noTransfer g.stats calls hcalls
  · obtain ⟨hmain, hperm, -, -, hglobals⟩ := operationsPool_spec hrun hfin
    obtain ⟨calls, hcalls, hno, new, hw, hnew⟩ :=
      (hrun.exchanged (operationsExecutor_noTransfer hids workers) fun _ => sends_modify _).finished hfin
    rw [hfin.2.2.2.resolve_right (not_not.2 hmain), List.nil_append] at hcalls
    refine ⟨new, hw, by rw [requestsOn, hnew.countP_eq, ← requestsOn, noTransfer_requests calls hno], ?_⟩
    rw [hglobals, ← hperm.count_eq, ← hcalls, List.map_map, List.map_map]
    exact get_tally_noTransfer g.stats calls hno

def oneWallet : Globals := ⟨Stats.zero, [.str "a"]⟩

/-- The service answers every request with `200` and the body `{"id": "a"}`; every
draw reads bits `2`, so `random.choice` picks `"transfer"`, and the clock reads 0. -/
def transferDraws : Env :=
  ⟨fun _ => ⟨2, 0⟩, fun _ => 0, fun _ _ => .ok ⟨200, some (.obj [("id", .str "a")])⟩⟩

/-- Three sequential operations on one wallet, each drawing a transfer: no request
is sent, and all three are counted as failed transfers. -/
theorem transfers_abandoned_below_two_wallets_one_wallet :
    oneWallet.createdWallets.length < 2 ∧
      ((operationsSequential 3).exec transferDraws oneWallet World.start).1.1.map (·.map Prod.fst) =
        .ok [.transfer, .transfer, .transfer] ∧
      ∃ results new, ((operationsSequential 3).exec transferDraws oneWallet World.start).1.1 = .ok results ∧
        ((operationsSequential 3).exec transferDraws oneWallet World.start).2.exchanges =
          World.start.exchanges ++ new ∧ requestsOn .transfer new = 0 ∧
        ((operationsSequential 3).exec transferDraws oneWallet World.start).1.2.stats.get .transfer =
          ⟨(oneWallet.stats.get .transfer).success,
            (oneWallet.stats.get .transfer).failed + (results.map Prod.fst).count .transfer⟩ :=
  ⟨by decide, by with_unfolding_all rfl,
    (transfers_abandoned_below_two_wallets (by decide)).1 3 transferDraws oneWallet World.start rfl⟩

end WalletLoadTest.QuickLoadTest
