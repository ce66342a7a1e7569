import WalletLoadTest.LoadTestWallets.Guard

/-!
# Against a mock that keeps balances, no wallet is overdrawn

The scenario of a test that replaces `requests.get` and `requests.post` by a mock
holding a balance per wallet.  The mock names the wallet of an id by `key`, any
function of the id the script formats into the URL.  It applies each call it
acknowledges, that is each call whose answer passes `raise_for_status()`: a new
wallet gets its `initialBalance` under the `walletId` it was sent, a credit adds its
amount, a debit takes it, and a transfer moves it to `toWalletId`.  Its
`get_wallet` answers report the balance it holds.  `load_test_wallets.py` runs its
operations one at a time, so the balance that bounds a debit or a transfer is read
in the call right before it (`main_debits_follow_balance_reads`); that is the
balance the mock holds when the debit arrives.  With the ceiling above 10, an
amount at most half a cent above `min(balance * 0.5, 500)` or
`min(balance * 0.3, 300)` is at most that balance.  So at every point of a run no
wallet's balance is negative, for any `NUM_WALLETS` and `NUM_OPERATIONS`
(`main_never_overdraws`).
-/

namespace WalletLoadTest.LoadTestWallets

open Python

/-! ## The mock -/

def payloadNumber (key : String) (req : Request) : Option ℚ :=
  match req.body.lookup key with
  | some (.float (.num q)) => some q
  | _ => none

theorem requestAmount_eq_payloadNumber (req : Request) :
    requestAmount req = payloadNumber "amount" req := rfl

def adjust (balances : String → ℚ) (id : Option String) (δ : ℚ) : String → ℚ :=
  match id with
  | some id => Function.update balances id (balances id + δ)
  | none => balances

variable (key : Json → String)

def pathId (req : Request) : Option String := req.wallet.map key

def destinationId (req : Request) : Option String := (req.body.lookup "toWalletId").map key

/-- What a call the mock acknowledges does to its balances. -/
def applyRequest (balances : String → ℚ) (req : Request) : String → ℚ :=
  let amount := (requestAmount req).getD 0
  match req.endpoint with
  | .createWallet =>
    match (req.body.lookup "walletId").map key, payloadNumber "initialBalance" req with
    | some id, some initialBalance => Function.update balances id initialBalance
    | _, _ => balances
  | .credit => adjust balances (pathId key req) amount
  | .debit => adjust balances (pathId key req) (-amount)
  | .transfer => adjust (adjust balances (pathId key req) (-amount)) (destinationId key req) amount
  | .getWallet | .getLedger => balances

def applyExchange (balances : String → ℚ) : Exchange → String → ℚ
  | (req, .ok response) =>
    if response.raiseForStatus.toBool then applyRequest key balances req else balances
  | (_, .error _) => balances

def mockBalances (es : List Exchange) : String → ℚ := es.foldl (applyExchange key) fun _ => 0

variable (parseFloat : String → Except Exc PyFloat)

def ReadHonest (balances : String → ℚ) (e : Exchange) : Prop :=
  e.1.endpoint = .getWallet → ∀ id ∈ pathId key e.1, ∀ balance ∈ reportedBalance parseFloat e.2,
    balance = .num (balances id)

instance (balances : String → ℚ) (e : Exchange) : Decidable (ReadHonest key parseFloat balances e) :=
  inferInstanceAs (Decidable (_ → _))

/-- Every balance the mock reports in `es` is the one it holds at that point, from
`balances` before the first call. -/
def HonestReads (balances : String → ℚ) (es : List Exchange) : Prop :=
  ∀ n (h : n < es.length), ReadHonest key parseFloat ((es.take n).foldl (applyExchange key) balances) es[n]

instance (balances : String → ℚ) (es : List Exchange) :
    Decidable (HonestReads key parseFloat balances es) :=
  inferInstanceAs (Decidable (∀ n (h : n < es.length),
    ReadHonest key parseFloat ((es.take n).foldl (applyExchange key) balances) es[n]))

variable {key parseFloat} in
theorem HonestReads.uncons {balances : String → ℚ} {e : Exchange} {es : List Exchange}
    (h : HonestReads key parseFloat balances (e :: es)) :
    ReadHonest key parseFloat balances e ∧
      HonestReads key parseFloat (applyExchange key balances e) es :=
  ⟨h 0 (Nat.succ_pos _), fun n hn => h (n + 1) (Nat.succ_lt_succ hn)⟩

/-! ## No balance goes negative -/

theorem update_nonneg {balances : String → ℚ} (hpos : ∀ id, 0 ≤ balances id) {id : String} {q : ℚ}
    (hq : 0 ≤ q) : ∀ id', 0 ≤ Function.update balances id q id' := by
  intro id'
  by_cases h : id' = id
  · rw [h, Function.update_same]
    exact hq
  · rw [Function.update_noteq h]
    exact hpos id'

theorem adjust_nonneg {balances : String → ℚ} (hpos : ∀ id, 0 ≤ balances id) {id? : Option String}
    {δ : ℚ} (h : ∀ id, id? = some id → 0 ≤ balances id + δ) : ∀ id', 0 ≤ adjust balances id? δ id' := by
  cases id? with
  | none => exact hpos
  | some id => exact update_nonneg hpos (h id rfl)

theorem payloadNumber_of_amountIn {name : String} {lo hi : ℚ} {req : Request}
    (h : AmountIn name lo hi req) : ∃ q, payloadNumber name req = some q ∧ lo ≤ q ∧ q ≤ hi := by
  unfold AmountIn at h
  unfold payloadNumber
  split at h
  · next q hq => exact ⟨q, by simp [hq], h.1, h.2.1⟩
  · exact h.elim

/-- The invariant of a run against the mock: no balance is negative, and if the last
call read a balance, it read the one the mock holds. -/
def Solvent (balances : String → ℚ) (last : Option Exchange) : Prop :=
  (∀ id, 0 ≤ balances id) ∧ ∀ e, last = some e → ReadHonest key parseFloat balances e

variable {key parseFloat}

theorem withdraw_nonneg {ceilingOf : PyFloat → PyFloat}
    (hcl : ∀ b c, ceilingOf (.num b) = .num c → 10 < c → c ≤ b / 2)
    {balances : String → ℚ} {last : Option Exchange} {req : Request}
    (hs : Solvent key parseFloat balances last) (h : ReadBefore parseFloat ceilingOf last req) :
    ∃ amount, requestAmount req = some amount ∧ 10 ≤ amount ∧
      ∀ id, 0 ≤ adjust balances (pathId key req) (-amount) id := by
  obtain ⟨reply, balance, c, hl, hrep, hceil, h10, hamt⟩ := h
  obtain ⟨amount, hq, hlo, hhi⟩ := payloadNumber_of_amountIn hamt
  refine ⟨amount, hq, hlo, adjust_nonneg hs.1 fun id hid => ?_⟩
  have hb : balance = .num (balances id) := hs.2 _ hl rfl id hid balance hrep
  rw [hb] at hceil
  linarith [hcl _ _ hceil h10]

theorem applyRequest_nonneg {balances : String → ℚ} {last : Option Exchange} {req : Request}
    (hs : Solvent key parseFloat balances last) (hg : BalanceGuard parseFloat last req)
    (hc : Contract req) : ∀ id, 0 ≤ applyRequest key balances req id := by
  obtain ⟨-, hc⟩ := hc
  unfold applyRequest
  unfold BalanceGuard at hg
  cases hep : req.endpoint <;> simp only [hep] at hc hg ⊢
  case createWallet =>
    obtain ⟨q, hq, h100, -⟩ := payloadNumber_of_amountIn hc.2
    rw [hq]
    cases (req.body.lookup "walletId").map key with
    | none => exact hs.1
    | some id => exact update_nonneg hs.1 (by linarith)
  case credit =>
    obtain ⟨q, hq, h10, -⟩ := payloadNumber_of_amountIn hc.2
    exact adjust_nonneg hs.1 fun id _ => by
      rw [requestAmount_eq_payloadNumber, hq, Option.getD_some]
      linarith [hs.1 id]
  case debit =>
    obtain ⟨amount, hq, -, hpos⟩ := withdraw_nonneg (fun b c h _ => by
      have := ceiling_le_scale h
      linarith) hs hg
    rw [hq, Option.getD_some]
    exact hpos
  case transfer =>
    obtain ⟨amount, hq, h10, hpos⟩ := withdraw_nonneg (fun b c h h10 => by
      have := ceiling_le_scale h
      linarith) hs hg
    rw [hq, Option.getD_some]
    exact adjust_nonneg hpos fun id _ => by linarith [hpos id]
  case getWallet => exact hs.1
  case getLedger => exact hs.1

theorem Solvent.step {balances : String → ℚ} {last : Option Exchange} {e : Exchange}
    (hs : Solvent key parseFloat balances last) (hg : BalanceGuard parseFloat last e.1)
    (hc : Contract e.1) (hr : ReadHonest key parseFloat balances e) :
    Solvent key parseFloat (applyExchange key balances e) (some e) := by
  obtain ⟨req, reply⟩ := e
  have hkeep : req.endpoint = .getWallet → applyExchange key balances (req, reply) = balances := by
    intro hep
    rcases reply with _ | response
    · rfl
    · simp only [applyExchange, applyRequest, hep, ite_self]
  refine ⟨?_, fun e he hep => ?_⟩
  · intro id
    rcases reply with _ | response
    · exact hs.1 id
    · dsimp only [applyExchange]
      split
      · exact applyRequest_nonneg hs hg hc id
      · exact hs.1 id
  · cases he
    rw [hkeep hep]
    exact hr hep

/-- Along calls that follow the guard, keep the contract and read honestly, no
balance is ever negative. -/
theorem Solvent.run {es : List Exchange} : ∀ {balances : String → ℚ} {last : Option Exchange},
    Solvent key parseFloat balances last → Follows (BalanceGuard parseFloat) last es →
      (∀ e ∈ es, Contract e.1) → HonestReads key parseFloat balances es →
        ∀ n id, 0 ≤ (es.take n).foldl (applyExchange key) balances id := by
  induction es with
  | nil => exact fun hs _ _ _ _ id => by simpa using hs.1 id
  | cons e es ih =>
    intro balances last hs hf hc hr n id
    obtain ⟨req, reply⟩ := e
    cases n with
    | zero => exact hs.1 id
    | succ n =>
      exact ih (hs.step hf.1 (hc _ (List.mem_cons_self _ _)) hr.uncons.1) hf.2
        (fun e he => hc e (List.mem_cons_of_mem _ he)) hr.uncons.2 n id

variable (key parseFloat)

/-- Against a mock that applies each call it acknowledges and reports the balances it
holds, no wallet's balance is negative at any point of a run of `main()`, for any
`NUM_WALLETS` and `NUM_OPERATIONS`, whatever else the mock answers. -/
theorem main_never_overdraws (wallets operations : Nat) (env : Env) (g : Globals)
    (hreads : HonestReads key parseFloat (fun _ => 0)
      ((mainWith parseFloat wallets operations).exec env g World.start).2.exchanges) :
    ∀ n id, 0 ≤ mockBalances key
      (((mainWith parseFloat wallets operations).exec env g World.start).2.exchanges.take n) id := by
  obtain ⟨es, hes, hf⟩ := (mainWith_guarded parseFloat wallets operations).exec env g
    (w := World.start) trivial
  have hc : ∀ e ∈ ((mainWith parseFloat wallets operations).exec env g World.start).2.exchanges,
      Contract e.1 := fun e he =>
    ((mainWith_sends parseFloat wallets operations).exec env g World.start).start e.1 (by
      rw [World.requests_eq_map_exchanges]
      exact List.mem_map_of_mem _ he)
  rw [hes] at hc hreads ⊢
  exact Solvent.run ⟨fun _ => le_rfl, fun e h => (Option.some_ne_none e h.symm).elim⟩ hf hc hreads

def idText : Json → String
  | .str s => s
  | _ => ""

/-- A mock with one wallet to create.  It answers the creation with the `walletId` the
script sent and the balance `100`, `get_wallet` with that balance, and every other
call with `200 {}`; the fifth draw picks `"debit"`, every other draw reads `0`, and
the clock reads `0`. -/
def oneDebitMock : Env where
  draws i := ⟨if i = 4 then 1 else 0, 0⟩
  clock _ := 0
  service _ req := match req.endpoint with
    | .createWallet => .ok ⟨200, some (.obj [("id", .str "wallet-0-1000"),
        ("ownerId", .str "user-1000"), ("balance", .float (.num 100))])⟩
    | .getWallet => .ok ⟨200, some (.obj [("balance", .float (.num 100))])⟩
    | _ => .ok ⟨200, some (.obj [])⟩

set_option maxRecDepth 4000 in
theorem main_never_overdraws_one_debit :
    HonestReads idText (fun _ => .error .valueError) (fun _ => 0)
      ((mainWith (fun _ => .error .valueError) 1 1).exec oneDebitMock Globals.initial
        World.start).2.exchanges ∧
    ((mainWith (fun _ => .error .valueError) 1 1).exec oneDebitMock Globals.initial
        World.start).2.exchanges.map (·.1.endpoint) = [.createWallet, .getWallet, .debit, .getLedger] ∧
    ∀ n id, 0 ≤ mockBalances idText
      (((mainWith (fun _ => .error .valueError) 1 1).exec oneDebitMock Globals.initial
        World.start).2.exchanges.take n) id :=
  have hreads : HonestReads idText (fun _ => .error .valueError) (fun _ => 0)
      ((mainWith (fun _ => .error .valueError) 1 1).exec oneDebitMock Globals.initial
        World.start).2.exchanges := by
    with_unfolding_all decide
  ⟨hreads, by with_unfolding_all decide,
    main_never_overdraws idText _ 1 1 oneDebitMock Globals.initial hreads⟩

end WalletLoadTest.LoadTestWallets
