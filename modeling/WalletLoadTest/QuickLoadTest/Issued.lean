import WalletLoadTest.Python.Provenance
import WalletLoadTest.QuickLoadTest.Load

/-!
# The requests name only wallets the service issued

`create_wallet` proposes a `walletId` in its payload, but the main thread appends
`result["data"]["id"]`, the id in the service's answer, to `created_wallets`, and
every later request takes its wallets from that list: the path of a credit, a
debit, a transfer or a ledger query, and a transfer's `"toWalletId"`.  So every
wallet a request of `main()` names was returned by the answer to an earlier
request to `/wallets` of the same run: in the sequential loop, and with `--fast`
whatever the interleaving of either pool's threads.
-/

namespace WalletLoadTest.QuickLoadTest

open Python Script

/-! ## The calls -/

def CreationAnswer (result : CreateResult) (o : Option Exchange) : Prop :=
  ∃ e, o = some e ∧ e.1.endpoint = .createWallet ∧ namedWallets e.1 = [] ∧
    ∀ data, result = .ok data → answerBody e.2 = some data

theorem createWallet_answer (idx : Nat) : (createWallet idx).AtMostOnce CreationAnswer := by
  refine Proc.Guarded.bind_silent (fun _ _ => trivial) fun _ => ?_
  refine Proc.Guarded.bind_silent (fun _ _ => trivial) fun _ => ?_
  refine Proc.Guarded.bind_silent (fun _ => trivial) fun _ => ?_
  refine Proc.Guarded.bind (R := fun r l => ∃ e, l = some e ∧ e.1.endpoint = .createWallet ∧
      namedWallets e.1 = [] ∧ r.toOption = answerBody e.2)
    (Py.run_guarded_bind_lift (fun _ _ => trivial) fun _ =>
      (Py.run_guarded_checked_json rfl).mono fun _ _ ⟨_, hl, hr⟩ => ⟨_, hl, rfl, rfl, hr⟩)
    fun r _ ⟨e, hl, hroute, hnamed, hr⟩ => ?_
  rcases r with _ | data
  · exact ⟨e, hl, hroute, hnamed, fun _ h => nomatch h⟩
  · exact ⟨e, hl, hroute, hnamed, fun _ h => by cases h; exact hr.symm⟩

theorem singleWalletOp_names {kind : OpType} {endpoint : Endpoint} {maxAmount : Nat}
    {description : String} (walletIds : List Json) :
    (singleWalletOp kind endpoint maxAmount description walletIds).Sends (NamesIn walletIds) :=
  Py.Sends.bind (Py.sends_choice _) (Py.returns_choice _) fun wallet hwallet =>
    Py.Sends.bind' (Py.sends_lift fun _ => trivial) fun _ =>
      Py.Sends.bind' (Py.sends_lift fun _ _ => trivial) fun _ =>
        Py.Sends.bind' (Py.sends_request fun x hx => by
          simp [namedWallets, List.lookup_cons] at hx
          exact hx ▸ hwallet)
          fun _ => Py.Sends.bind' (Py.sends_ofExcept _) fun _ => Py.sends_pure _

theorem transferOp_names (walletIds : List Json) : (transferOp walletIds).Sends (NamesIn walletIds) := by
  unfold transferOp
  split
  · exact Py.sends_pure _
  refine Py.Sends.bind (Py.sends_choice _) (Py.returns_choice _) fun source hsource => ?_
  refine Py.Sends.bind (Py.sends_choice _) (Py.returns_choice _) fun target htarget => ?_
  refine Py.Sends.bind' (Py.sends_lift fun _ => trivial) fun _ =>
    Py.Sends.bind' (Py.sends_lift fun _ _ => trivial) fun _ => ?_
  refine Py.Sends.bind' (Py.sends_request fun x hx => ?_) fun _ =>
    Py.Sends.bind' (Py.sends_ofExcept _) fun _ => Py.sends_pure _
  simp [namedWallets, List.lookup_cons] at hx
  rcases hx with rfl | rfl
  · exact hsource
  · exact (List.mem_filter.1 htarget).1

theorem performOperation_names (opType : OpType) (walletIds : List Json) :
    (performOperation opType walletIds).Sends (NamesIn walletIds) := by
  refine Proc.Sends.bind' ?_ fun r => by rcases r with _ | _ <;> exact trivial
  cases opType
  · exact singleWalletOp_names walletIds
  · exact singleWalletOp_names walletIds
  · exact transferOp_names walletIds

theorem performOperation_atMostOnce_names (opType : OpType) (walletIds : List Json) :
    (performOperation opType walletIds).AtMostOnce fun _ o => ∀ e ∈ o, NamesIn walletIds e.1 :=
  Proc.Guarded.mono ((performOperation_atMostOnce opType walletIds).sends
    (performOperation_names opType walletIds)) fun _ _ h => h.2

theorem ledgerIteration_names {walletIds : List Json} {walletId : Json} (hw : walletId ∈ walletIds) :
    Sends (NamesIn walletIds) (ledgerIteration walletId) := by
  refine Sends.tryExcept ?_ fun _ => (sends_evalExpr _).discard
  refine (sends_liftPy (Py.sends_request fun x hx => ?_)).bind fun _ => (sends_evalExpr _).bind fun _ =>
    (sends_evalExpr _).bind fun _ => (sends_evalExpr _).bind fun _ => (sends_evalExpr _).bind fun _ =>
      sends_pure _
  simp [namedWallets] at hx
  exact hx ▸ hw

theorem recordCreation_records (result : CreateResult) (S : Json → Prop)
    (hS : ∀ data walletId, result = .ok data → data.getItem "id" = .ok walletId → S walletId) :
    Spec (fun g => ∀ x ∈ g.createdWallets, S x) (recordCreation result)
      (fun _ g => ∀ x ∈ g.createdWallets, S x) fun _ g => ∀ x ∈ g.createdWallets, S x := by
  cases result with
  | ok data =>
    refine Spec.bind (Spec.evalExpr (Q := fun walletId g => S walletId ∧ ∀ x ∈ g.createdWallets, S x)
      (fun walletId h _ hg => ⟨hS data walletId rfl h, hg⟩) fun _ _ _ h => h) fun walletId => ?_
    refine Spec.bind (Spec.modifyState (Q := fun _ g => ∀ x ∈ g.createdWallets, S x)
      fun g ⟨hid, hg⟩ x hx => ?_) fun _ => Spec.modifyState fun _ h => h
    rcases List.mem_append.1 hx with hx | hx
    · exact hg x hx
    · exact List.mem_singleton.1 hx ▸ hid
  | failed => exact Spec.modifyState fun _ h => h

/-! ## Sequential mode -/

section Sequential

variable {base : List Exchange}

theorem creationPass_keeps (i : Nat) :
    Keeps (fun g es => IssuedSince base g.createdWallets es)
      (liftProc (createWallet i) >>= recordCreation) := by
  intro env g w h
  rw [exec_bind, exec_liftProc]
  obtain ⟨o, hw, e, rfl, hroute, hnamed, hdata⟩ := (createWallet_answer i).run env w
  generalize (createWallet i).run env w = p at hw hdata
  obtain ⟨result, w'⟩ := p
  have hend : Ends
      (fun _ g' => ∀ x ∈ g'.createdWallets, x ∈ g.createdWallets ∨ returnedId e.2 = some x)
      (fun _ g' => ∀ x ∈ g'.createdWallets, x ∈ g.createdWallets ∨ returnedId e.2 = some x)
      ((recordCreation result).exec env g w').1 :=
    ((recordCreation_records result _ fun data x hr hx =>
      .inr (returnedId_of_answerBody (hdata data hr) hx)) g fun x hx => .inl hx).run env w'
  have hsilent : ((recordCreation result).exec env g w').2.exchanges = w'.exchanges :=
    Proc.exchanges_run_of_silent (recordCreation_silent result g) env w'
  dsimp only
  generalize (recordCreation result).exec env g w' = q at hend hsilent
  obtain ⟨⟨r, g'⟩, w''⟩ := q
  rw [hsilent, hw]
  exact h.create hroute hnamed (by rcases r <;> exact hend)

theorem operationsSequential_keeps (n : Nat) :
    Keeps (fun g es => IssuedSince base g.createdWallets es) (operationsSequential n) := by
  intro env g w h
  obtain ⟨calls, -, hcalls, hexec, hw⟩ :=
    operationsSequential_calls (performOperation_atMostOnce_names · g.createdWallets) env n g w rfl
  rw [hw, hexec]
  refine h.extend (fun e he => ?_) fun _ hx => hx
  obtain ⟨p, hp, hpe⟩ := List.mem_map.1 (List.reduceOption_mem_iff.1 he)
  exact hcalls p hp e hpe

theorem verifyLedgers_keeps :
    Keeps (fun g es => IssuedSince base g.createdWallets es) verifyLedgers := by
  intro env g w h
  have hend : Ends (fun _ => (· = g)) (fun r s => s = g ∧ SliceError r)
      (verifyLedgers.exec env g w).1 := (verifyLedgers_spec g g rfl).run env w
  have hg : (verifyLedgers.exec env g w).1.2 = g := by
    generalize (verifyLedgers.exec env g w).1 = p at hend
    rcases p with ⟨_ | _, _⟩
    exacts [hend.1, hend]
  obtain ⟨new, hw, hnew⟩ : ∃ new, (verifyLedgers.exec env g w).2.exchanges = w.exchanges ++ new ∧
      ∀ e ∈ new, NamesIn g.createdWallets e.1 := by
    rw [verifyLedgers, exec_bind, exec_get]
    dsimp only
    rw [sample_of_le (Nat.min_le_right 5 _)]
    exact Proc.Sends.exchanges (Sends.bind_liftProc (samplePool_sends _ _ _) (samplePool_subperm _ _)
      (fun _ hsample => Sends.forM_mem fun _ hw => ledgerIteration_names (hsample.2.subset hw)) g) env w
  rw [hw]
  exact h.extend hnew fun x hx => by rwa [hg] at hx

theorem finish_keeps (opsStart opsEnd : ℚ) :
    Keeps (fun g es => IssuedSince base g.createdWallets es) (finish opsStart opsEnd) :=
  verifyLedgers_keeps.bind fun _ => keeps_evalExpr _

theorem mainSequential_keeps (args : Args) :
    Keeps (fun g es => IssuedSince base g.createdWallets es) (mainSequential args) := by
  refine (keeps_liftProc (time_sends _)).bind fun _ => ?_
  refine (Keeps.forM creationPass_keeps _).bind fun _ => ?_
  refine (keeps_liftProc (time_sends _)).bind fun _ => Keeps.bind_get fun g => ?_
  split
  · exact keeps_pure _
  · dsimp only
    exact (keeps_pure _).bind fun _ => (keeps_liftProc (time_sends _)).bind fun _ =>
      (operationsSequential_keeps _).bind fun _ => (keeps_liftProc (time_sends _)).bind fun _ =>
        (finish_keeps _ _).bind fun _ => keeps_pure _

end Sequential

/-! ## Parallel mode -/

section Pools

variable {env : Env} {workers n : Nat} {w₀ : World}

theorem creationPool_issues {s : Pool Nat CreateResult Globals}
    (hrun : Pool.Runs env (creationExecutor workers) (Pool.init n Globals.initial w₀) s)
    (hfin : s.Finished) :
    ∃ new, s.world.exchanges = w₀.exchanges ++ new ∧ NamesOnlyIssued new ∧
      (s.raised = none → ∀ x ∈ s.globals.createdWallets, Issued new x) := by
  have hsubmit : ∀ i, ((creationExecutor workers).submit i).Sends (fun _ => False) ∧
      ((creationExecutor workers).submit i).Always fun p => p.2.AtMostOnce CreationAnswer :=
    fun i => ⟨trivial, createWallet_answer i⟩
  obtain ⟨results, hresults, hanswers, new, hw, hperm⟩ :=
    (hrun.exchanged (Q := fun _ => CreationAnswer) hsubmit recordCreation_silent).finished hfin
  have hmade : ∀ q ∈ results, ∀ e, q.2 = some e → e ∈ new := fun q hq e hqe =>
    hperm.symm.subset (List.reduceOption_mem_iff.2 (List.mem_map.2 ⟨q, hq, hqe⟩))
  refine ⟨new, hw, namesOnlyIssued_of_unnamed fun e he => ?_, fun hmain x hx => ?_⟩
  · obtain ⟨q, hq, hqe⟩ := List.mem_map.1 (List.reduceOption_mem_iff.1 (hperm.subset he))
    obtain ⟨e', he', -, hnamed, -⟩ := hanswers q hq
    rw [hqe] at he'
    exact Option.some.inj he' ▸ hnamed
  · have hr := hrun.reachable (fun _ _ => True)
      (fun c g => ∀ x ∈ g.createdWallets,
        ∃ p ∈ c, ∃ data, p.2 = .ok data ∧ data.getItem "id" = .ok x)
      (fun _ _ => True) (fun _ => Proc.always_of_forall (fun _ => trivial) _)
      (fun c t b _ => (recordCreation_records b _ fun data x hb hx =>
        ⟨(t, b), List.mem_append_right c (List.mem_singleton_self _), data, hb, hx⟩).mono
          (fun _ hg x hx => let ⟨p, hp, rest⟩ := hg x hx; ⟨p, List.mem_append_left _ hp, rest⟩)
          (fun _ _ h => h) fun _ _ _ => trivial)
      fun _ h => absurd h (List.not_mem_nil _)
    obtain ⟨⟨t, result⟩, hp, data, hresult, hid⟩ := (hr.finished _ _ _ hfin hmain).2.2.2 x hx
    obtain ⟨q, hq, hqp⟩ := List.mem_map.1 (hresults ▸ List.mem_append_right s.done hp)
    obtain ⟨e, hqe, hroute, -, hdata⟩ := hanswers q hq
    rw [hqp] at hdata
    exact ⟨e, hmade q hq e hqe, hroute, returnedId_of_answerBody (hdata data hresult) hid⟩

theorem operationsPool_keeps {base : List Exchange} {g₀ : Globals} {s : Pool OpType OpResult Globals}
    (hrun : Pool.Runs env (operationsExecutor workers g₀.createdWallets) (Pool.init n g₀ w₀) s)
    (hfin : s.Finished) (h : IssuedSince base g₀.createdWallets w₀.exchanges) :
    IssuedSince base s.globals.createdWallets s.world.exchanges := by
  obtain ⟨-, -, -, -, hglobals⟩ := operationsPool_spec hrun hfin
  have hsubmit : ∀ i,
      ((operationsExecutor workers g₀.createdWallets).submit i).Sends (fun _ => False) ∧
      ((operationsExecutor workers g₀.createdWallets).submit i).Always fun p =>
        p.2.AtMostOnce fun _ o => ∀ e ∈ o, NamesIn g₀.createdWallets e.1 :=
    fun _ => ⟨fun _ => trivial, fun _ => performOperation_atMostOnce_names _ _⟩
  obtain ⟨results, -, hnames, new, hw, hperm⟩ :=
    (hrun.exchanged (Q := fun _ _ o => ∀ e ∈ o, NamesIn g₀.createdWallets e.1) hsubmit
      fun _ => sends_modify _).finished hfin
  rw [hw]
  refine h.extend (fun e he => ?_) fun x hx => by rwa [hglobals] at hx
  obtain ⟨q, hq, hqe⟩ := List.mem_map.1 (List.reduceOption_mem_iff.1 (hperm.subset he))
  exact hnames q hq e hqe

theorem mainFast_names {args : Args} {w w' : World} {r : Except Raise Unit} {g : Globals}
    {results : List (OpType × OpResult)} (h : MainFast env args w r g results w') :
    ∃ new, w'.exchanges = w.exchanges ++ new ∧ NamesOnlyIssued new := by
  cases h with
  | refused => exact ⟨[], by simp, namesOnlyIssued_of_unnamed fun _ h => absurd h (List.not_mem_nil _)⟩
  | creationRaised _ hrun hfin =>
    obtain ⟨new, hw, hnames, -⟩ := creationPool_issues hrun hfin
    exact ⟨new, by rw [hw, World.exchanges_readIn], hnames⟩
  | noWallets _ hrun hfin =>
    obtain ⟨new, hw, hnames, -⟩ := creationPool_issues hrun hfin
    exact ⟨new, by rw [World.exchanges_readIn, hw, World.exchanges_readIn], hnames⟩
  | operationsRaised _ hrun hfin hr _ hrun' hfin' =>
    obtain ⟨new, hw, hnames, hids⟩ := creationPool_issues hrun hfin
    obtain ⟨new', hw', hnames', -⟩ := operationsPool_keeps hrun' hfin'
      (show IssuedSince w.exchanges _ _ from
        ⟨new, by simp [hw], hnames, hids hr⟩)
    exact ⟨new', hw', hnames'⟩
  | @completed s s' _ _ _ _ hrun hfin hr _ hrun' hfin' _ hfinish =>
    obtain ⟨new, hw, hnames, hids⟩ := creationPool_issues hrun hfin
    have hops := operationsPool_keeps hrun' hfin'
      (show IssuedSince w.exchanges _ _ from
        ⟨new, by simp [hw], hnames, hids hr⟩)
    have hend := finish_keeps ((s.world.readIn env).2.readIn env).1 (s'.world.readIn env).1 env
      s'.globals (s'.world.readIn env).2 (by rwa [World.exchanges_readIn])
    rw [hfinish] at hend
    obtain ⟨new', hw', hnames', -⟩ := hend
    exact ⟨new', hw', hnames'⟩

end Pools

/-- In either mode, whatever the service answers and, with `--fast`, whatever the
interleaving of the pools' threads, every wallet a request of `main()` names (in
the path of a credit, a debit, a transfer or a ledger query, or as a transfer's
`"toWalletId"`) was returned by the answer to an earlier request to `/wallets` of
the same run. -/
theorem requests_name_issued_wallets (args : Args) :
    (∀ env w, ∃ new, ((mainSequential args).exec env Globals.initial w).2.exchanges = w.exchanges ++ new ∧
      NamesOnlyIssued new) ∧
    ∀ {env : Env} {w w' : World} {r : Except Raise Unit} {g : Globals}
      {results : List (OpType × OpResult)}, MainFast env args w r g results w' →
        ∃ new, w'.exchanges = w.exchanges ++ new ∧ NamesOnlyIssued new :=
  ⟨fun env w =>
    let ⟨new, hw, hnames, _⟩ := mainSequential_keeps args env Globals.initial w (issuedSince_nil _)
    ⟨new, hw, hnames⟩,
    mainFast_names⟩

theorem requests_name_issued_wallets_one_operation :
    ∃ new, oneOperationEnd.2.exchanges = World.start.exchanges ++ new ∧ NamesOnlyIssued new :=
  (requests_name_issued_wallets ⟨1, 1, true, 1⟩).2
    (@MainFast.completed acceptingService _ World.start _ _ _ _ _ (by decide)
      (Pool.serial_runs (by decide) _ _ _).1 (Pool.serial_runs (by decide) _ _ _).2 rfl
      (fun h => List.cons_ne_nil (Json.str "a") []
        ((rfl : oneWalletCreation.globals.createdWallets = _).symm.trans h))
      (Pool.serial_runs (by decide) _ _ _).1 (Pool.serial_runs (by decide) _ _ _).2 rfl rfl)

end WalletLoadTest.QuickLoadTest
