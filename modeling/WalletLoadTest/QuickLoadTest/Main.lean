import WalletLoadTest.Identifier
import WalletLoadTest.Python.Pool

/-!
# `scripts/quick_load_test.py`

The script creates `--wallets` wallets and performs `--operations` random
operations, either one after another or, with `--fast`, on a pool of
`--workers` threads.  `create_wallet` and `perform_operation` catch every
exception and return a result dict; the main thread tallies the results in the
module-level `stats` and `created_wallets`.  Its reads of `result["data"]["id"]`,
of a sampled wallet id sliced in the ledger report, and the final division by
`ops_duration` are outside any `try`.

`write_cap` appends to the debug-capture file and swallows its own failures:
the model leaves it out, with printing and `time.sleep`.
-/

namespace WalletLoadTest.QuickLoadTest

open Python Script

/-- The parsed command line; `argparse` accepts any integer. -/
structure Args where
  wallets : Int
  operations : Int
  fast : Bool
  workers : Int

def Args.defaults : Args := ⟨100, 200, false, 10⟩

inductive OpType where
  | credit
  | debit
  | transfer
  deriving DecidableEq, Repr

def operations : List OpType := [.credit, .debit, .transfer]

/-- Expression `random.choice(operations)`. -/
def chooseOperation : Proc OpType := choiceOf .credit [.debit, .transfer]

theorem choice_operations : choice operations = ExceptT.lift chooseOperation := rfl

structure Counter where
  success : Nat
  failed : Nat
  deriving DecidableEq, Repr

/-- The module-level `stats` dict. -/
structure Stats where
  wallets : Counter
  credit : Counter
  debit : Counter
  transfer : Counter
  deriving DecidableEq, Repr

namespace Stats

def zero : Stats := ⟨⟨0, 0⟩, ⟨0, 0⟩, ⟨0, 0⟩, ⟨0, 0⟩⟩

/-- Entry `stats[op_type]`. -/
def get (s : Stats) : OpType → Counter
  | .credit => s.credit
  | .debit => s.debit
  | .transfer => s.transfer

def Counter.bump (c : Counter) (success : Bool) : Counter :=
  if success then ⟨c.success + 1, c.failed⟩ else ⟨c.success, c.failed + 1⟩

/-- Statement `stats[op_type]["success" if success else "failed"] += 1`. -/
def record (s : Stats) (k : OpType) (success : Bool) : Stats :=
  match k with
  | .credit => { s with credit := Counter.bump s.credit success }
  | .debit => { s with debit := Counter.bump s.debit success }
  | .transfer => { s with transfer := Counter.bump s.transfer success }

end Stats

structure Globals where
  stats : Stats
  createdWallets : List Json

def Globals.initial : Globals := ⟨Stats.zero, []⟩

/-! ## The per-item functions -/

def genId (pfx : String) : Proc String := timestampedId pfx 1000 9999

/-- The dict `create_wallet` returns: `{"success": True, "data": ...}` or
`{"success": False, "error": str(e), "wallet_id": ...}`. -/
inductive CreateResult where
  | ok (data : Json)
  | failed (error : Exc) (walletId : String)

def createWallet (_idx : Nat) : Proc CreateResult := do
  let walletId ← genId "wallet"
  let ownerId ← genId "user"
  let initialBalance ← randint 100 5000
  let attempt : Py Json := do
    let key ← ExceptT.lift (genId "idem")
    let response ← request ⟨.createWallet, none, some key,
      [("walletId", .str walletId), ("ownerId", .str ownerId),
        ("initialBalance", .int initialBalance)], 10⟩
    Py.ofExcept response.raiseForStatus
    Py.ofExcept response.json
  match ← attempt.run with
  | .ok data => pure (.ok data)
  | .error e => pure (.failed e walletId)

/-- The text of the `"error"` member of a failed operation. -/
inductive OpError where
  | notEnoughWallets
  | raised (e : Exc)
  deriving DecidableEq, Repr

/-- The dict `perform_operation` returns. -/
structure OpResult where
  success : Bool
  type : OpType
  amount : Option Nat
  error : Option OpError
  deriving DecidableEq, Repr

/-- The credit and debit branches: one wallet, an integer amount up to `maxAmount`. -/
def singleWalletOp (kind : OpType) (endpoint : Endpoint) (maxAmount : Nat) (description : String)
    (walletIds : List Json) : Py OpResult := do
  let walletId ← choice walletIds
  let amount ← ExceptT.lift (randint 10 maxAmount)
  let key ← ExceptT.lift (genId "idem")
  let response ← request ⟨endpoint, some walletId, some key,
    [("amount", .int amount), ("description", .str description)], 10⟩
  Py.ofExcept response.raiseForStatus
  return ⟨true, kind, some amount, none⟩

def transferOp (walletIds : List Json) : Py OpResult :=
  if walletIds.length < 2 then pure ⟨false, .transfer, none, some .notEnoughWallets⟩
  else do
    let fromWallet ← choice walletIds
    let toWallet ← choice (walletIds.filter fun w => !w.pyEq fromWallet)
    let amount ← ExceptT.lift (randint 10 300)
    let key ← ExceptT.lift (genId "idem")
    let response ← request ⟨.transfer, some fromWallet, some key,
      [("toWalletId", toWallet), ("amount", .int amount),
        ("description", .str "Load test transfer")], 10⟩
    Py.ofExcept response.raiseForStatus
    return ⟨true, .transfer, some amount, none⟩

def performOperation (opType : OpType) (walletIds : List Json) : Proc OpResult := do
  let attempt : Py OpResult := match opType with
    | .credit => singleWalletOp .credit .credit 500 "Load test credit" walletIds
    | .debit => singleWalletOp .debit .debit 200 "Load test debit" walletIds
    | .transfer => transferOp walletIds
  match ← attempt.run with
  | .ok r => pure r
  | .error e => pure ⟨false, opType, none, some (.raised e)⟩

/-! ## The main thread -/

/-- The body of the creation loop on one result, in both modes. -/
def recordCreation : CreateResult → Script Globals Unit
  | .ok data => do
    let id ← evalExpr (data.getItem "id")
    modify fun g => { g with createdWallets := g.createdWallets ++ [id] }
    modify fun g => { g with stats := { g.stats with wallets := Stats.Counter.bump g.stats.wallets true } }
  | .failed _ _ =>
    modify fun g => { g with stats := { g.stats with wallets := Stats.Counter.bump g.stats.wallets false } }

/-- The body of the operations loop on one result, in both modes. -/
def recordOperation (result : OpResult) : Script Globals Unit :=
  modify fun g => { g with stats := g.stats.record result.type result.success }

def creationSequential (wallets : Nat) : Script Globals Unit :=
  (List.range wallets).forM fun i => do
    let result ← liftProc (createWallet i)
    recordCreation result

/-- The sequential operations loop.  Its value, the kind drawn and the result of
each pass, is a ghost: the Python loop has none. -/
def operationsSequential : Nat → Script Globals (List (OpType × OpResult))
  | 0 => pure []
  | n + 1 => do
    let opType ← liftProc chooseOperation
    let result ← liftProc (performOperation opType (← get).createdWallets)
    recordOperation result
    let rest ← operationsSequential n
    return (opType, result) :: rest

def creationExecutor (workers : Nat) : Executor Nat CreateResult Globals :=
  ⟨workers, fun i => pure (i, createWallet i), recordCreation⟩

def operationsExecutor (workers : Nat) (walletIds : List Json) :
    Executor OpType OpResult Globals :=
  ⟨workers, fun _ => do
      let opType ← chooseOperation
      return (opType, performOperation opType walletIds),
    recordOperation⟩

/-- One pass of the step-4 loop.  The report line slices the wallet id, in the
`try` and again in the `except`. -/
def ledgerIteration (walletId : Json) : Script Globals Unit :=
  tryExcept
    (do
      let response ← liftPy (request ⟨.getLedger, some walletId, none, [], 5⟩)
      evalExpr response.raiseForStatus
      let ledger ← evalExpr response.json
      let _ ← evalExpr (walletId.sliceTo 20)
      let _ ← evalExpr (ledger.get "count" (.int 0))
      pure ())
    fun _ => discard (evalExpr (walletId.sliceTo 20))

/-- Step 4: the ledgers of `min(5, len(created_wallets))` sampled wallets. -/
def verifyLedgers : Script Globals Unit := do
  let wallets := (← get).createdWallets
  let sampleWallets ← liftPy (sample wallets (min 5 wallets.length))
  sampleWallets.forM ledgerIteration

/-- The final statistics; `Operations/sec` divides by `ops_duration`. -/
def finalStatistics (opsDuration : ℚ) : Script Globals Unit :=
  evalExpr (if opsDuration = 0 then .error .zeroDivisionError else .ok ())

/-- Everything after the operations block. -/
def finish (opsStart opsEnd : ℚ) : Script Globals Unit := do
  verifyLedgers
  finalStatistics (opsEnd - opsStart)

/-- Function `main()` without `--fast`.  Its value, the operations performed, is a
ghost: the Python function returns `None`. -/
def mainSequential (args : Args) : Script Globals (List (OpType × OpResult)) := do
  let _ ← liftProc time
  creationSequential args.wallets.toNat
  let _ ← liftProc time
  if (← get).createdWallets.isEmpty then return []
  let opsStart ← liftProc time
  let results ← operationsSequential args.operations.toNat
  let opsEnd ← liftProc time
  finish opsStart opsEnd
  return results

/-- Function `main()` with `--fast`: how it can end, from a world `w`.  The clock
is read before and after each `with` block; a pool of `max_workers ≤ 0` is
refused with `ValueError`.  The ghost index lists the futures the operations loop
consumed, in the order `as_completed` yielded them, each with the kind it was
submitted with. -/
inductive MainFast (env : Env) (args : Args) (w : World) :
    Except Raise Unit → Globals → List (OpType × OpResult) → World → Prop
  | refused (hw : args.workers ≤ 0) :
      MainFast env args w (.error (.exception .valueError)) Globals.initial [] (w.readIn env).2
  | creationRaised {s : Pool Nat CreateResult Globals} {r : Raise} (hw : 0 < args.workers)
      (hrun : Pool.Runs env (creationExecutor args.workers.toNat) (Pool.init args.wallets.toNat
        Globals.initial (w.readIn env).2) s) (hfin : s.Finished) (hr : s.raised = some r) :
      MainFast env args w (.error r) s.globals [] s.world
  | noWallets {s : Pool Nat CreateResult Globals} (hw : 0 < args.workers)
      (hrun : Pool.Runs env (creationExecutor args.workers.toNat) (Pool.init args.wallets.toNat
        Globals.initial (w.readIn env).2) s) (hfin : s.Finished) (hr : s.raised = none)
      (hempty : s.globals.createdWallets = []) :
      MainFast env args w (.ok ()) s.globals [] (s.world.readIn env).2
  | operationsRaised {s : Pool Nat CreateResult Globals} {s' : Pool OpType OpResult Globals}
      {r : Raise} (hw : 0 < args.workers)
      (hrun : Pool.Runs env (creationExecutor args.workers.toNat) (Pool.init args.wallets.toNat
        Globals.initial (w.readIn env).2) s) (hfin : s.Finished) (hr : s.raised = none)
      (hne : s.globals.createdWallets ≠ [])
      (hrun' : Pool.Runs env (operationsExecutor args.workers.toNat s.globals.createdWallets)
        (Pool.init args.operations.toNat s.globals ((s.world.readIn env).2.readIn env).2) s')
      (hfin' : s'.Finished) (hr' : s'.raised = some r) :
      MainFast env args w (.error r) s'.globals s'.collected s'.world
  | completed {s : Pool Nat CreateResult Globals} {s' : Pool OpType OpResult Globals}
      {r : Except Raise Unit} {g : Globals} {w' : World} (hw : 0 < args.workers)
      (hrun : Pool.Runs env (creationExecutor args.workers.toNat) (Pool.init args.wallets.toNat
        Globals.initial (w.readIn env).2) s) (hfin : s.Finished) (hr : s.raised = none)
      (hne : s.globals.createdWallets ≠ [])
      (hrun' : Pool.Runs env (operationsExecutor args.workers.toNat s.globals.createdWallets)
        (Pool.init args.operations.toNat s.globals ((s.world.readIn env).2.readIn env).2) s')
      (hfin' : s'.Finished) (hr' : s'.raised = none)
      (hfinish : (finish ((s.world.readIn env).2.readIn env).1 (s'.world.readIn env).1).exec env
        s'.globals (s'.world.readIn env).2 = ((r, g), w')) :
      MainFast env args w r g s'.collected w'

end WalletLoadTest.QuickLoadTest
