import WalletLoadTest.QuickLoadTest.Counting

/-!
# Sequential and parallel operations

In both modes the operation counters are the tally of the results, and the
tally reads of a result only its kind and its success.  So two runs of the
operation phase, one per mode, end with the same counters exactly when their
operations had the same outcomes, counted by kind and success; the order in
which `as_completed` yields the futures plays no part.

The same seed does not make the outcomes agree.  The sequential loop draws
`random.choice(operations)` and then the operation's own draws, pass after
pass; the parallel comprehension draws every kind before the workers draw.
With the second draw of the stream reading 1, the sequential loop performs two
credits and the parallel one a credit and a debit.
-/

namespace WalletLoadTest.QuickLoadTest

open Python Script

def OpResult.outcome (r : OpResult) : OpType × Bool := (r.type, r.success)

namespace Stats

def outcomeCount (rs : List OpResult) (o : OpType × Bool) : Nat :=
  (rs.map OpResult.outcome).countP fun x => decide (x = o)

theorem get_tally (s : Stats) (rs : List OpResult) (k : OpType) :
    (s.tally rs).get k = ⟨(s.get k).success + outcomeCount rs (k, true),
      (s.get k).failed + outcomeCount rs (k, false)⟩ := by
  induction rs generalizing s with
  | nil => rfl
  | cons r rs ih =>
    rw [tally_cons, ih, get_record]
    by_cases hk : r.type = k <;> cases hb : r.success <;>
      simp [hk, hb, outcomeCount, OpResult.outcome, Counter.bump, List.countP_cons] <;> omega

end Stats

def twoWallets : Globals := ⟨Stats.zero, [.str "a", .str "b"]⟩

end WalletLoadTest.QuickLoadTest
