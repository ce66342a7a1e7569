import WalletLoadTest.Python.Value
import WalletLoadTest.Python.Proc
import WalletLoadTest.Python.Script
import WalletLoadTest.Python.Spec
import WalletLoadTest.Python.Trace
import WalletLoadTest.Python.Dialog
import WalletLoadTest.Python.Pool
import WalletLoadTest.Python.PoolExchanges
import WalletLoadTest.Python.PoolTermination
import WalletLoadTest.Python.Tally
import WalletLoadTest.Python.Provenance
import WalletLoadTest.Identifier
import WalletLoadTest.LoadTestWallets.Main
import WalletLoadTest.LoadTestWallets.Counting
import WalletLoadTest.LoadTestWallets.Outcome
import WalletLoadTest.LoadTestWallets.Amounts
import WalletLoadTest.LoadTestWallets.Requests
import WalletLoadTest.LoadTestWallets.Guard
import WalletLoadTest.LoadTestWallets.MockService
import WalletLoadTest.LoadTestWallets.Successes
import WalletLoadTest.LoadTestWallets.Wallets
import WalletLoadTest.LoadTestWallets.Issued
import WalletLoadTest.QuickLoadTest.Main
import WalletLoadTest.QuickLoadTest.Counting
import WalletLoadTest.QuickLoadTest.Outcome
import WalletLoadTest.QuickLoadTest.Modes
import WalletLoadTest.QuickLoadTest.Requests
import WalletLoadTest.QuickLoadTest.Acknowledged
import WalletLoadTest.QuickLoadTest.Creation
import WalletLoadTest.QuickLoadTest.Load
import WalletLoadTest.QuickLoadTest.Issued
