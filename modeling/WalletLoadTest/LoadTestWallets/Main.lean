import WalletLoadTest.Identifier

/-!
# `scripts/load_test_wallets.py`

The script creates `NUM_WALLETS` wallets one after another, exits with status 1
when none was created, performs `NUM_OPERATIONS` random credits, debits and
transfers, and reads the ledgers of a sample of at most five wallets.  Every
per-wallet and per-operation step runs inside `try ... except Exception`.

The module globals `stats` and `created_wallets` are the state of the `Script`.
Printing, `time.sleep` and the progress bar are not modelled, except that the
arguments of a progress bar are evaluated, and that evaluation can raise.
-/

namespace WalletLoadTest.LoadTestWallets

open Python Script

def numWallets : Nat := 100

def numOperations : Nat := 200

inductive Operation where
  | credit
  | debit
  | transfer
  deriving DecidableEq, Repr

/-- The list `["credit", "debit", "transfer"]` the operations loop chooses from. -/
def operations : List Operation := [.credit, .debit, .transfer]

/-- The module-level `stats` dict. -/
structure Stats where
  walletsCreated : Nat
  walletsFailed : Nat
  creditsSuccess : Nat
  creditsFailed : Nat
  debitsSuccess : Nat
  debitsFailed : Nat
  transfersSuccess : Nat
  transfersFailed : Nat
  deriving DecidableEq, Repr

namespace Stats

def zero : Stats := ⟨0, 0, 0, 0, 0, 0, 0, 0⟩

/-- Counter `stats["<kind>s_success"]`. -/
def success (s : Stats) : Operation → Nat
  | .credit => s.creditsSuccess
  | .debit => s.debitsSuccess
  | .transfer => s.transfersSuccess

/-- Counter `stats["<kind>s_failed"]`. -/
def failed (s : Stats) : Operation → Nat
  | .credit => s.creditsFailed
  | .debit => s.debitsFailed
  | .transfer => s.transfersFailed

/-- Statement `stats["<kind>s_success"] += 1`. -/
def bumpSuccess (s : Stats) : Operation → Stats
  | .credit => { s with creditsSuccess := s.creditsSuccess + 1 }
  | .debit => { s with debitsSuccess := s.debitsSuccess + 1 }
  | .transfer => { s with transfersSuccess := s.transfersSuccess + 1 }

/-- Statement `stats["<kind>s_failed"] += 1`. -/
def bumpFailed (s : Stats) : Operation → Stats
  | .credit => { s with creditsFailed := s.creditsFailed + 1 }
  | .debit => { s with debitsFailed := s.debitsFailed + 1 }
  | .transfer => { s with transfersFailed := s.transfersFailed + 1 }

end Stats

/-- The dict appended to `created_wallets`: three members copied from the
service's answer. -/
structure WalletRecord where
  id : Json
  ownerId : Json
  balance : Json

structure Globals where
  stats : Stats
  createdWallets : List WalletRecord

def Globals.initial : Globals := ⟨Stats.zero, []⟩

def Globals.bumpSuccess (g : Globals) (k : Operation) : Globals :=
  { g with stats := g.stats.bumpSuccess k }

def Globals.bumpFailed (g : Globals) (k : Operation) : Globals :=
  { g with stats := g.stats.bumpFailed k }

/-! ## Identifiers and API calls -/

def generateWalletId : Proc String := timestampedId "wallet" 1000 9999

def generateOwnerId : Proc String := do
  let suffix ← randint 1000 9999
  return "user-" ++ toString suffix

def generateIdempotencyKey : Proc String := timestampedId "idem" 100000 999999

/-- The common body of `create_wallet`, `credit_wallet`, `debit_wallet` and
`transfer_wallet`: a POST carrying a fresh idempotency key.  Their `except`
clauses only print and re-raise. -/
def postWith (endpoint : Endpoint) (wallet : Option Json) (payload : List (String × Json)) :
    Py Json := do
  let key ← ExceptT.lift generateIdempotencyKey
  let response ← request ⟨endpoint, wallet, some key, payload, 10⟩
  Py.ofExcept response.raiseForStatus
  Py.ofExcept response.json

def createWallet (walletId ownerId : String) (initialBalance : ℚ) : Py Json :=
  postWith .createWallet none
    [("walletId", .str walletId), ("ownerId", .str ownerId),
      ("initialBalance", .float (.num initialBalance))]

def creditWallet (walletId : Json) (amount : ℚ) (description : String) : Py Json :=
  postWith .credit (some walletId)
    [("amount", .float (.num amount)), ("description", .str description)]

def debitWallet (walletId : Json) (amount : ℚ) (description : String) : Py Json :=
  postWith .debit (some walletId)
    [("amount", .float (.num amount)), ("description", .str description)]

def transferWallet (fromWalletId toWalletId : Json) (amount : ℚ) (description : String) :
    Py Json :=
  postWith .transfer (some fromWalletId)
    [("toWalletId", toWalletId), ("amount", .float (.num amount)),
      ("description", .str description)]

/-- The common body of `get_wallet` and `get_ledger_entries`: a GET, no key. -/
def getWith (endpoint : Endpoint) (walletId : Json) : Py Json := do
  let response ← request ⟨endpoint, some walletId, none, [], 10⟩
  Py.ofExcept response.raiseForStatus
  Py.ofExcept response.json

def getWallet (walletId : Json) : Py Json := getWith .getWallet walletId

def getLedgerEntries (walletId : Json) : Py Json := getWith .getLedger walletId

/-! ## The steps of `main` -/

/-- Expression `round(random.uniform(lo, hi), 2)`. -/
def roundedUniform (lo hi : ℚ) : Proc ℚ := round2 <$> uniform lo hi

/-- Expression `min(current_balance * fraction, cap)`: `max_debit`, `max_transfer`. -/
def ceiling (fraction cap : ℚ) (currentBalance : PyFloat) : PyFloat :=
  pyMin (currentBalance.scale fraction) (.num cap)

def maxDebit (currentBalance : PyFloat) : PyFloat := ceiling (1 / 2) 500 currentBalance

def maxTransfer (currentBalance : PyFloat) : PyFloat := ceiling (3 / 10) 300 currentBalance

/-- One pass of the creation loop.  The wallet's id, owner and balance are drawn
before the `try`. -/
def creationIteration : Script Globals Unit := do
  let walletId ← liftProc generateWalletId
  let ownerId ← liftProc generateOwnerId
  let initialBalance ← liftProc (roundedUniform 100 10000)
  tryExcept
    (do
      let wallet ← liftPy (createWallet walletId ownerId initialBalance)
      let record ← evalExpr do
        let id ← wallet.getItem "id"
        let owner ← wallet.getItem "ownerId"
        let balance ← wallet.getItem "balance"
        pure (WalletRecord.mk id owner balance)
      modify fun g => { g with createdWallets := g.createdWallets ++ [record] }
      modify fun g => { g with stats := { g.stats with walletsCreated := g.stats.walletsCreated + 1 } })
    fun _ => modify fun g => { g with stats := { g.stats with walletsFailed := g.stats.walletsFailed + 1 } }

section Operations

variable (parseFloat : String → Except Exc PyFloat)

/-- Statement `float(wallet_data.get("balance", 0))`. -/
def currentBalance (walletData : Json) : Except Exc PyFloat := do
  let balance ← walletData.get "balance" (.int 0)
  balance.toFloat parseFloat

/-- The body of the `try` of the operations loop, for the drawn operation.  A
request goes out only when the ceiling exceeds 10; `max_debit` and
`max_transfer` are never `+inf` (`ceiling_ne_inf`), so the guard reads a finite
ceiling.  After the success counter, the progress bar's suffix slices the
wallet ids. -/
def operationBody (i : Nat) : Operation → Script Globals Unit
  | .credit => do
    let wallet ← liftPy (choice (← get).createdWallets)
    let amount ← liftProc (roundedUniform 10 1000)
    let _ ← liftPy (creditWallet wallet.id amount ("Load test credit #" ++ toString (i + 1)))
    modify (·.bumpSuccess .credit)
    evalExpr (discard (wallet.id.sliceTo 15))
  | .debit => do
    let wallet ← liftPy (choice (← get).createdWallets)
    let walletData ← liftPy (getWallet wallet.id)
    let balance ← evalExpr (currentBalance parseFloat walletData)
    match maxDebit balance with
    | .num c =>
      if 10 < c then do
        let amount ← liftProc (roundedUniform 10 c)
        let _ ← liftPy (debitWallet wallet.id amount ("Load test debit #" ++ toString (i + 1)))
        modify (·.bumpSuccess .debit)
        evalExpr (discard (wallet.id.sliceTo 15))
      else modify (·.bumpFailed .debit)
    | _ => modify (·.bumpFailed .debit)
  | .transfer => do
    let wallets := (← get).createdWallets
    if wallets.length < 2 then modify (·.bumpFailed .transfer)
    else
      let fromWallet ← liftPy (choice wallets)
      let toWallet ← liftPy (choice (wallets.filter fun w => !w.id.pyEq fromWallet.id))
      let walletData ← liftPy (getWallet fromWallet.id)
      let balance ← evalExpr (currentBalance parseFloat walletData)
      match maxTransfer balance with
      | .num c =>
        if 10 < c then do
          let amount ← liftProc (roundedUniform 10 c)
          let _ ← liftPy (transferWallet fromWallet.id toWallet.id amount
            ("Load test transfer #" ++ toString (i + 1)))
          modify (·.bumpSuccess .transfer)
          evalExpr (discard do
            let _ ← fromWallet.id.sliceTo 10
            toWallet.id.sliceTo 10)
        else modify (·.bumpFailed .transfer)
      | _ => modify (·.bumpFailed .transfer)

/-- The `try` of the operations loop with its `except`, which counts a failure
of the drawn operation. -/
def operationAttempt (i : Nat) (operation : Operation) : Script Globals Unit :=
  tryExcept (operationBody parseFloat i operation) fun _ => modify (·.bumpFailed operation)

/-- One pass of the operations loop: the operation is drawn before the `try`. -/
def operationIteration (i : Nat) : Script Globals Unit := do
  let operation ← liftPy (choice operations)
  operationAttempt parseFloat i operation

end Operations

/-- One pass of the step-5 loop: a failed query is printed and the loop goes on. -/
def ledgerIteration (wallet : WalletRecord) : Script Globals Unit :=
  tryExcept
    (do
      let ledger ← liftPy (getLedgerEntries wallet.id)
      let _ ← evalExpr (ledger.get "count" (.int 0))
      pure ())
    fun _ => pure ()

/-- Step 5: the ledgers of `min(5, len(created_wallets))` sampled wallets. -/
def verifyLedgers : Script Globals Unit := do
  let wallets := (← get).createdWallets
  let sampleWallets ← liftPy (sample wallets (min 5 wallets.length))
  sampleWallets.forM ledgerIteration

/-- Function `main()`, reading the module constants `NUM_WALLETS` and `NUM_OPERATIONS`
as `wallets` and `operations`. -/
def mainWith (parseFloat : String → Except Exc PyFloat) (wallets operations : Nat) :
    Script Globals Unit := do
  (List.range wallets).forM fun _ => creationIteration
  if (← get).stats.walletsCreated = 0 then sysExit 1
  (List.range operations).forM (operationIteration parseFloat)
  verifyLedgers

def main (parseFloat : String → Except Exc PyFloat) : Script Globals Unit :=
  mainWith parseFloat numWallets numOperations

end WalletLoadTest.LoadTestWallets
