import WalletLoadTest.Python.Provenance
import WalletLoadTest.LoadTestWallets.Wallets

/-!
# The requests name only wallets the service issued

The creation pass proposes a `walletId`, but the record it appends to
`created_wallets` copies `"id"` from the service's answer, and the operations
and the ledger report take their wallets from those records: the path of a
credit, a debit, a balance read, a transfer or a ledger query, and a transfer's
`"toWalletId"`.  So every wallet a request of `main()` names was returned by the
answer to an earlier request to `/wallets` of the same run, and so is the id of
every record in `created_wallets`, however `main()` ends.

A pass of the operations loop reads `created_wallets` and then sends requests
naming wallets of what it read; it keeps, besides the invariant, that the ids it
read were issued (`Keeps.bind_get_of`).
-/

namespace WalletLoadTest.LoadTestWallets

open Python Script

def WalletsIssued (base : List Exchange) (g : Globals) (es : List Exchange) : Prop :=
  IssuedSince base (g.createdWallets.map (·.id)) es

def ReadIssued (base : List Exchange) (read g : Globals) (es : List Exchange) : Prop :=
  IssuedSince base (g.createdWallets.map (·.id) ++ read.createdWallets.map (·.id)) es

section Invariant

variable {base es : List Exchange} {read g : Globals}

theorem readIssued_self (h : WalletsIssued base g es) : ReadIssued base g g es :=
  IssuedSince.mono h fun _ hx => (List.mem_append.1 hx).elim id id

theorem ReadIssued.walletsIssued (h : ReadIssued base read g es) : WalletsIssued base g es :=
  IssuedSince.mono h (List.subset_append_left _ _)

theorem ReadIssued.extend (h : ReadIssued base read g es) {new : List Exchange}
    (hnew : ∀ e ∈ new, NamesIn (read.createdWallets.map (·.id)) e.1) :
    ReadIssued base read g (es ++ new) :=
  IssuedSince.extend h (fun e he x hx => List.mem_append_right _ (hnew e he x hx)) (List.Subset.refl _)

end Invariant

/-! ## The API helpers -/

theorem postWith_names {endpoint : Endpoint} {wallet : Option Json} {payload : List (String × Json)}
    {walletIds : List Json}
    (h : ∀ x ∈ wallet.toList ++ (payload.lookup "toWalletId").toList, x ∈ walletIds) :
    (postWith endpoint wallet payload).Sends (NamesIn walletIds) :=
  Py.Sends.bind' (Py.sends_lift fun _ _ => trivial) fun _ =>
    Py.Sends.bind' (Py.sends_request h) fun _ =>
      Py.Sends.bind' (Py.sends_ofExcept _) fun _ => Py.sends_ofExcept _

theorem postWith_names_path {endpoint : Endpoint} {walletId : Json} {payload : List (String × Json)}
    {walletIds : List Json} (h : walletId ∈ walletIds) (hp : payload.lookup "toWalletId" = none) :
    (postWith endpoint (some walletId) payload).Sends (NamesIn walletIds) :=
  postWith_names fun x hx => by simpa [hp, List.mem_singleton.1 (by simpa [hp] using hx)] using h

theorem getWith_names {endpoint : Endpoint} {walletId : Json} {walletIds : List Json}
    (h : walletId ∈ walletIds) : (getWith endpoint walletId).Sends (NamesIn walletIds) :=
  Py.Sends.bind' (Py.sends_request fun x hx => by simpa [namedWallets, List.mem_singleton.1 hx] using h)
    fun _ => Py.Sends.bind' (Py.sends_ofExcept _) fun _ => Py.sends_ofExcept _

theorem createWallet_answer (walletId ownerId : String) (initialBalance : ℚ) :
    (createWallet walletId ownerId initialBalance).run.AtMostOnce fun r o =>
      ∃ e, o = some e ∧ e.1.endpoint = .createWallet ∧ namedWallets e.1 = [] ∧
        r.toOption = answerBody e.2 :=
  Proc.Guarded.mono ((createWallet_body walletId ownerId initialBalance).sends
      (show (createWallet walletId ownerId initialBalance).Sends (NamesIn []) from
        postWith_names fun x hx => by simp [List.lookup_cons] at hx))
    fun _ _ ⟨⟨e, he, hroute, hbody⟩, hnamed⟩ =>
      ⟨e, he, hroute, List.eq_nil_iff_forall_not_mem.2 fun x hx => List.not_mem_nil x (hnamed e he x hx),
        hbody⟩

theorem getItem_id_of_record {wallet : Json} {record : WalletRecord}
    (h : (do
      let id ← wallet.getItem "id"
      let owner ← wallet.getItem "ownerId"
      let balance ← wallet.getItem "balance"
      pure (WalletRecord.mk id owner balance) : Except Exc WalletRecord) = .ok record) :
    wallet.getItem "id" = .ok record.id := by
  rcases hid : wallet.getItem "id" with _ | id <;> rw [hid] at h
  · exact nomatch h
  rcases hown : wallet.getItem "ownerId" with _ | owner <;> rw [hown] at h
  · exact nomatch h
  rcases hbal : wallet.getItem "balance" with _ | balance <;> rw [hbal] at h
  · exact nomatch h
  cases h
  rfl

/-! ## The creation pass -/

theorem creationIteration_keeps (base : List Exchange) : Keeps (WalletsIssued base) creationIteration := by
  refine (keeps_liftProc (timestampedId_sends _ _ _ _)).bind fun walletId => ?_
  refine (keeps_liftProc generateOwnerId_silent).bind fun ownerId =>
    (keeps_liftProc (roundedUniform_silent _ _)).bind fun initialBalance => ?_
  intro env g w h
  obtain ⟨o, hw, e, rfl, hroute, hnamed, hbody⟩ :=
    (createWallet_answer walletId ownerId initialBalance).run env w
  have hcreate := exec_liftPy (σ := Globals) (createWallet walletId ownerId initialBalance) env g w
  generalize (createWallet walletId ownerId initialBalance).run.run env w = p at hw hbody hcreate
  obtain ⟨_ | wallet, w'⟩ := p
  · rw [exec_tryExcept_bind_error hcreate, exec_modify]
    exact hw ▸ IssuedSince.create h hroute hnamed fun x hx => .inl hx
  · rw [exec_tryExcept_bind_ok hcreate, exec_tryExcept_evalExpr_bind]
    split
    next record hrecord =>
      have hids : ∀ x ∈ (g.createdWallets ++ [record]).map (·.id),
          x ∈ g.createdWallets.map (·.id) ∨ returnedId e.2 = some x := fun x hx => by
        rw [List.map_append, List.mem_append, List.map_singleton, List.mem_singleton] at hx
        rcases hx with hx | rfl
        · exact .inl hx
        · exact .inr (returnedId_of_answerBody hbody.symm (getItem_id_of_record hrecord))
      rw [exec_tryExcept, exec_bind, exec_modify]
      exact hw ▸ IssuedSince.create h hroute hnamed hids
    next =>
      rw [exec_modify]
      exact hw ▸ IssuedSince.create h hroute hnamed fun x hx => .inl hx

/-! ## The operations and the ledger report -/

section Operations

variable {base : List Exchange} (parseFloat : String → Except Exc PyFloat)

theorem keeps_liftPy_read {read : Globals} {x : Py α}
    (hs : x.Sends (NamesIn (read.createdWallets.map (·.id)))) :
    Keeps (ReadIssued base read) (liftPy x : Script Globals α) :=
  keeps_liftPy hs fun _ _ _ h hnew => h.extend hnew

theorem keeps_bind_get_read {f : Globals → Script Globals β}
    (hf : ∀ read, Keeps (ReadIssued base read) (f read)) : Keeps (WalletsIssued base) (get >>= f) :=
  Keeps.bind_get_of (fun _ _ => readIssued_self) (fun _ _ _ h => h.walletsIssued) hf

theorem keeps_bump {read : Globals} {f : Globals → Globals}
    (hf : ∀ g, (f g).createdWallets = g.createdWallets) : Keeps (ReadIssued base read) (modify f) :=
  keeps_modify fun g _ h => by rwa [ReadIssued, hf g]

theorem operationBody_keeps (i : Nat) (k : Operation) :
    Keeps (WalletsIssued base) (operationBody parseFloat i k) := by
  have bumpFailed : ∀ read k, Keeps (ReadIssued base read) (modify (·.bumpFailed k)) :=
    fun _ _ => keeps_bump fun _ => rfl
  have bumpSuccess : ∀ read k, Keeps (ReadIssued base read) (modify (·.bumpSuccess k)) :=
    fun _ _ => keeps_bump fun _ => rfl
  cases k with
  | credit =>
    refine keeps_bind_get_read fun read => ?_
    refine Keeps.bind_liftPy_silent (Py.sends_choice _) (Py.returns_choice _) fun wallet hwallet => ?_
    refine (keeps_liftProc (roundedUniform_silent _ _)).bind fun _ => ?_
    have hid := List.mem_map_of_mem (·.id) hwallet
    exact (keeps_liftPy_read (postWith_names_path hid (by rfl))).bind fun _ =>
      (bumpSuccess read .credit).bind fun _ => keeps_evalExpr _
  | debit =>
    refine keeps_bind_get_read fun read => ?_
    refine Keeps.bind_liftPy_silent (Py.sends_choice _) (Py.returns_choice _) fun wallet hwallet => ?_
    have hid := List.mem_map_of_mem (·.id) hwallet
    refine (keeps_liftPy_read (getWith_names hid)).bind fun _ => (keeps_evalExpr _).bind fun _ => ?_
    split
    · split
      · refine (keeps_liftProc (roundedUniform_silent _ _)).bind fun _ => ?_
        exact (keeps_liftPy_read (postWith_names_path hid (by rfl))).bind fun _ =>
          (bumpSuccess read .debit).bind fun _ => keeps_evalExpr _
      · exact bumpFailed read .debit
    · exact bumpFailed read .debit
  | transfer =>
    refine keeps_bind_get_read fun read => ?_
    dsimp only
    split
    · exact bumpFailed read .transfer
    refine Keeps.bind_liftPy_silent (Py.sends_choice _) (Py.returns_choice _) fun source hsource => ?_
    refine Keeps.bind_liftPy_silent (Py.sends_choice _) (Py.returns_choice _) fun target htarget => ?_
    have hsid := List.mem_map_of_mem (·.id) hsource
    have htid := List.mem_map_of_mem (·.id) (List.mem_filter.1 htarget).1
    refine (keeps_liftPy_read (getWith_names hsid)).bind fun _ => (keeps_evalExpr _).bind fun _ => ?_
    split
    · split
      · refine (keeps_liftProc (roundedUniform_silent _ _)).bind fun _ => ?_
        refine (keeps_liftPy_read (postWith_names fun x hx => ?_)).bind fun _ =>
          (bumpSuccess read .transfer).bind fun _ => keeps_evalExpr _
        simp [List.lookup_cons] at hx
        rcases hx with rfl | rfl
        exacts [hsid, htid]
      · exact bumpFailed read .transfer
    · exact bumpFailed read .transfer

theorem operationIteration_keeps (i : Nat) :
    Keeps (WalletsIssued base) (operationIteration parseFloat i) :=
  Keeps.bind_liftPy_silent (Py.sends_choice _) (Py.returns_choice _) fun k _ =>
    (operationBody_keeps parseFloat i k).tryExcept fun _ => keeps_modify fun _ _ h => h

end Operations

theorem verifyLedgers_keeps (base : List Exchange) : Keeps (WalletsIssued base) verifyLedgers := by
  refine keeps_bind_get_read fun read => ?_
  dsimp only
  rw [sample_of_le (Nat.min_le_right 5 _)]
  refine Keeps.bind_liftPy_silent (Py.sends_lift (samplePool_sends _ _ _))
    (Py.returns_lift (samplePool_subperm _ _)) fun _ hsample => Keeps.forM_mem fun wallet hwallet => ?_
  refine Keeps.tryExcept ?_ fun _ => keeps_pure _
  exact (keeps_liftPy_read (getWith_names (List.mem_map_of_mem (·.id) (hsample.2.subset hwallet)))).bind
    fun _ => (keeps_evalExpr _).bind fun _ => keeps_pure _

theorem main_keeps (base : List Exchange) (parseFloat : String → Except Exc PyFloat) :
    Keeps (WalletsIssued base) (main parseFloat) := by
  refine (Keeps.forM (fun _ => creationIteration_keeps base) _).bind fun _ => Keeps.bind_get fun g => ?_
  have rest : Keeps (WalletsIssued base)
      (((List.range numOperations).forM (operationIteration parseFloat)) >>= fun _ => verifyLedgers) :=
    (Keeps.forM (operationIteration_keeps parseFloat) _).bind fun _ => verifyLedgers_keeps base
  dsimp only
  split
  · exact (keeps_throw _).bind fun _ => rest
  · exact (keeps_pure _).bind fun _ => rest

/-- However `main()` ends, whatever the service answers and the float parser does,
every wallet a request names (in the path of a credit, a debit, a balance read, a
transfer or a ledger query, or as a transfer's `"toWalletId"`) was returned by the
answer to an earlier request to `/wallets` of the same run, and so was the id of
every record in `created_wallets`. -/
theorem main_names_issued_wallets (parseFloat : String → Except Exc PyFloat) (env : Env) (w : World) :
    ∃ new, ((main parseFloat).exec env Globals.initial w).2.exchanges = w.exchanges ++ new ∧
      NamesOnlyIssued new ∧
      ∀ record ∈ ((main parseFloat).exec env Globals.initial w).1.2.createdWallets,
        Issued new record.id :=
  let ⟨new, hw, hnames, hids⟩ :=
    main_keeps w.exchanges parseFloat env Globals.initial w (issuedSince_nil _)
  ⟨new, hw, hnames, fun record hrecord => hids record.id (List.mem_map_of_mem _ hrecord)⟩

end WalletLoadTest.LoadTestWallets
