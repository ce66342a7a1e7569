import WalletLoadTest.Python.Tally
import WalletLoadTest.LoadTestWallets.Main

/-!
# Success counters count the answers the script could read

The API helpers of `load_test_wallets.py` return only when the response passed
`raise_for_status()` and its body parsed as JSON, and `<kind>s_success += 1`
comes right after the helper's call; nothing else moves a success counter.  So
however `main()` ends, the success counter of each operation is the number of
requests on that operation's route whose response passed both checks.  A
`200` whose body is not JSON counts as a failure here (`quick_load_test.py`,
which never reads the body, counts it as a success).  Wallet creation, balance
reads and ledger reads go to other routes.

The lemmas for the operations phase and the ledger report hold for any family
of counters that meets `OperationsTracked`; the wallet counters are another such
family (`LoadTestWallets.Wallets`).
-/

namespace WalletLoadTest.LoadTestWallets

open Python Script

def Operation.endpoint : Operation → Endpoint
  | .credit => .credit
  | .debit => .debit
  | .transfer => .transfer

theorem Operation.endpoint_eq_iff {k k' : Operation} : k.endpoint = k'.endpoint ↔ k = k' := by
  cases k <;> cases k' <;> decide

def returnedJson : Reply → Bool
  | .ok response => response.raiseForStatus.toBool && response.json.toBool
  | .error _ => false

theorem returnedJson_eq_isSome (reply : Reply) : returnedJson reply = (answerBody reply).isSome := by
  rcases reply with _ | response
  · rfl
  · simp only [returnedJson, answerBody]
    rcases response.raiseForStatus with _ | _ <;> rcases response.json with _ | _ <;> rfl

def successes (g : Globals) (k : Operation) : Nat := g.stats.success k

def returnedFor (k : Operation) (e : Exchange) : Bool :=
  decide (e.1.endpoint = k.endpoint) && returnedJson e.2

theorem returnedFor_eq_false {e : Exchange}
    (h : e.1.endpoint = .createWallet ∨ e.1.endpoint = .getWallet ∨ e.1.endpoint = .getLedger)
    (k : Operation) : returnedFor k e = false := by
  rcases h with h | h | h <;> cases k <;> simp [returnedFor, h, Operation.endpoint]

theorem successes_bumpSuccess (g : Globals) (k k' : Operation) :
    successes (g.bumpSuccess k) k' = successes g k' + if k = k' then 1 else 0 := by
  cases k <;> cases k' <;> rfl

theorem successes_bumpFailed (g : Globals) (k k' : Operation) :
    successes (g.bumpFailed k) k' = successes g k' := by
  cases k <;> cases k' <;> rfl

/-! ## The API helpers -/

theorem postWith_body (endpoint : Endpoint) (wallet : Option Json) (payload : List (String × Json)) :
    (postWith endpoint wallet payload).run.AtMostOnce fun r o =>
      ∃ e, o = some e ∧ e.1.endpoint = endpoint ∧ r.toOption = answerBody e.2 :=
  Py.run_guarded_bind_lift (fun _ _ => trivial) fun _ =>
    (Py.run_guarded_checked_json rfl).mono fun _ _ ⟨_, hl, hr⟩ => ⟨_, hl, rfl, hr⟩

theorem postWith_sends_route (endpoint : Endpoint) (wallet : Option Json)
    (payload : List (String × Json)) : (postWith endpoint wallet payload).Sends (·.endpoint = endpoint) :=
  Py.Sends.bind' (Py.sends_lift fun _ _ => trivial) fun _ =>
    Py.Sends.bind' (Py.sends_request rfl) fun _ =>
      Py.Sends.bind' (Py.sends_ofExcept _) fun _ => Py.sends_ofExcept _

theorem getWith_sends_route (endpoint : Endpoint) (walletId : Json) :
    (getWith endpoint walletId).Sends (·.endpoint = endpoint) :=
  Py.Sends.bind' (Py.sends_request rfl) fun _ =>
    Py.Sends.bind' (Py.sends_ofExcept _) fun _ => Py.sends_ofExcept _

theorem postWith_bumpSuccess_tracks (k : Operation) (wallet : Option Json)
    (payload : List (String × Json)) {f : Unit → Script Globals β}
    (hf : ∀ a, Tracks successes returnedFor (f a)) :
    Tracks successes returnedFor
      (liftPy (postWith k.endpoint wallet payload) >>= fun _ => modify (·.bumpSuccess k) >>= f) := by
  intro env g w
  rw [exec_bind, exec_liftPy]
  obtain ⟨o, hw, e, rfl, hroute, hbody⟩ := (postWith_body k.endpoint wallet payload).run env w
  generalize (postWith k.endpoint wallet payload).run.run env w = p at hw hbody ⊢
  obtain ⟨_ | a, w'⟩ := p
  · refine .of_uncounted hw (fun e' he k' => ?_) fun _ => rfl
    rw [List.mem_singleton.1 he, returnedFor, returnedJson_eq_isSome, ← hbody]
    simp [Except.toOption]
  · have hbump : Tallied successes returnedFor g w (g.bumpSuccess k) w' :=
      ⟨[e], hw, fun k' => by
        simp [successes_bumpSuccess, returnedFor, returnedJson_eq_isSome, hroute, ← hbody,
          Operation.endpoint_eq_iff, List.countP_cons, Except.toOption]⟩
    exact hbump.trans (hf () env _ w')

/-! ## The loops of `main`, for any family of counters -/

structure OperationsTracked {κ : Type} (count : Globals → κ → Nat) (weight : κ → Exchange → Bool) :
    Prop where
  /-- An operation's helper call, then its success counter, moves the counters
  by the exchange it made. -/
  post : ∀ (k : Operation) (wallet : Option Json) (payload : List (String × Json))
    {f : Unit → Script Globals Unit}, (∀ a, Tracks count weight (f a)) →
      Tracks count weight (liftPy (postWith k.endpoint wallet payload) >>= fun _ =>
        modify (·.bumpSuccess k) >>= f)
  /-- A failure counter is none of the family. -/
  bumpFailed : ∀ g k c, count (g.bumpFailed k) c = count g c
  /-- Balance and ledger reads count for none of the family. -/
  reads : ∀ e : Exchange, e.1.endpoint = .getWallet ∨ e.1.endpoint = .getLedger → ∀ c, weight c e = false

theorem generateOwnerId_silent : generateOwnerId.Sends fun _ => False := fun _ => trivial

theorem roundedUniform_silent (lo hi : ℚ) : (roundedUniform lo hi).Sends fun _ => False :=
  fun _ => trivial

namespace OperationsTracked

variable {κ : Type} {count : Globals → κ → Nat} {weight : κ → Exchange → Bool}

section Operations

variable (parseFloat : String → Except Exc PyFloat)

theorem getWallet_tracks (h : OperationsTracked count weight) (walletId : Json) :
    Tracks count weight (liftPy (getWallet walletId) : Script Globals Json) :=
  tracks_liftPy (getWith_sends_route _ _) fun _ hr c _ => h.reads _ (.inl hr) c

theorem operationBody_tracks (h : OperationsTracked count weight) (i : Nat) (k : Operation) :
    Tracks count weight (operationBody parseFloat i k) := by
  have failed : ∀ k, Tracks count weight (modify (·.bumpFailed k)) :=
    fun k => tracks_modify fun g => h.bumpFailed g k
  cases k with
  | credit =>
    refine Tracks.bind_get fun g => (tracks_liftPy_silent (Py.sends_choice _)).bind fun wallet => ?_
    exact (tracks_liftProc (roundedUniform_silent _ _)).bind fun _ =>
      h.post .credit _ _ fun _ => tracks_evalExpr _
  | debit =>
    refine Tracks.bind_get fun g => (tracks_liftPy_silent (Py.sends_choice _)).bind fun wallet => ?_
    refine (h.getWallet_tracks _).bind fun _ => (tracks_evalExpr _).bind fun balance => ?_
    split
    · split
      · exact (tracks_liftProc (roundedUniform_silent _ _)).bind fun _ =>
          h.post .debit _ _ fun _ => tracks_evalExpr _
      · exact failed .debit
    · exact failed .debit
  | transfer =>
    refine Tracks.bind_get fun g => ?_
    dsimp only
    split
    · exact failed .transfer
    refine (tracks_liftPy_silent (Py.sends_choice _)).bind fun _ =>
      (tracks_liftPy_silent (Py.sends_choice _)).bind fun _ => ?_
    refine (h.getWallet_tracks _).bind fun _ => (tracks_evalExpr _).bind fun balance => ?_
    split
    · split
      · exact (tracks_liftProc (roundedUniform_silent _ _)).bind fun _ =>
          h.post .transfer _ _ fun _ => tracks_evalExpr _
      · exact failed .transfer
    · exact failed .transfer

theorem operationIteration_tracks (h : OperationsTracked count weight) (i : Nat) :
    Tracks count weight (operationIteration parseFloat i) :=
  (tracks_liftPy_silent (Py.sends_choice _)).bind fun k =>
    (h.operationBody_tracks parseFloat i k).tryExcept fun _ =>
      tracks_modify fun g => h.bumpFailed g k

end Operations

theorem verifyLedgers_tracks (h : OperationsTracked count weight) :
    Tracks count weight verifyLedgers := by
  refine Tracks.bind_get fun g => ?_
  refine (tracks_liftPy_silent (sample_sends _ _ _)).bind fun sampleWallets =>
    Tracks.forM (fun wallet => ?_) sampleWallets
  refine Tracks.tryExcept ?_ fun _ => tracks_pure _
  exact (tracks_liftPy (getWith_sends_route _ _) fun _ hr c _ => h.reads _ (.inr hr) c).bind fun _ =>
    (tracks_evalExpr _).bind fun _ => tracks_pure _

theorem main_tracks (h : OperationsTracked count weight) (hcreate : Tracks count weight creationIteration)
    (parseFloat : String → Except Exc PyFloat) : Tracks count weight (main parseFloat) := by
  refine (Tracks.forM (fun _ => hcreate) _).bind fun _ => Tracks.bind_get fun g => ?_
  have rest : Tracks count weight
      (((List.range numOperations).forM (operationIteration parseFloat)) >>= fun _ => verifyLedgers) :=
    (Tracks.forM (h.operationIteration_tracks parseFloat) _).bind fun _ => h.verifyLedgers_tracks
  dsimp only
  split
  · exact (tracks_throw _).bind fun _ => rest
  · exact (tracks_pure _).bind fun _ => rest

end OperationsTracked

/-! ## The success counters -/

theorem successes_tracked : OperationsTracked successes returnedFor :=
  ⟨postWith_bumpSuccess_tracks, successes_bumpFailed, fun _ h => returnedFor_eq_false (.inr h)⟩

theorem creationIteration_tracks : Tracks successes returnedFor creationIteration := by
  refine (tracks_liftProc (timestampedId_sends _ _ _ _)).bind fun _ => ?_
  refine (tracks_liftProc generateOwnerId_silent).bind fun _ =>
    (tracks_liftProc (roundedUniform_silent _ _)).bind fun _ => ?_
  refine Tracks.tryExcept ?_ fun _ => tracks_modify fun _ k => by cases k <;> rfl
  refine (tracks_liftPy (postWith_sends_route _ _ _)
    fun _ h k _ => returnedFor_eq_false (.inl h) k).bind fun _ => ?_
  refine (tracks_evalExpr _).bind fun _ => Tracks.bind ?_ fun _ => ?_
  · exact tracks_modify fun _ _ => rfl
  · exact tracks_modify fun _ k => by cases k <;> rfl

/-- However `main()` ends, and whatever the service answers and the float parser
does, each operation's success counter is the number of requests on its route
whose response passed `raise_for_status()` and had a JSON body. -/
theorem successes_count_returned_requests (parseFloat : String → Except Exc PyFloat) (env : Env)
    (w : World) :
    ∃ new, ((main parseFloat).exec env Globals.initial w).2.exchanges = w.exchanges ++ new ∧
      ∀ k, ((main parseFloat).exec env Globals.initial w).1.2.stats.success k =
        new.countP fun e => decide (e.1.endpoint = k.endpoint) && returnedJson e.2 :=
  let ⟨new, hw, hk⟩ := successes_tracked.main_tracks creationIteration_tracks parseFloat env Globals.initial w
  ⟨new, hw, fun k => (hk k).trans (by cases k <;> exact Nat.zero_add _)⟩

end WalletLoadTest.LoadTestWallets
