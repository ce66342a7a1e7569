import WalletLoadTest.LoadTestWallets.Main

/-!
# Amounts of debits and transfers in `load_test_wallets.py`

A debit or a transfer goes out only when its ceiling, `min(current_balance * 0.5, 500)`
or `min(current_balance * 0.3, 300)`, is greater than 10; its amount is then
`round(random.uniform(10, ceiling), 2)`.  The amount is at least 10, but rounding to
cents can lift it above the ceiling by up to half a cent: from a balance of `40.03`
the transfer ceiling is `12.009`, and a draw of `12.006` sends `12.01`.
-/

namespace WalletLoadTest.LoadTestWallets

open Python

theorem ceiling_ne_inf (fraction cap : ℚ) (currentBalance : PyFloat) :
    ceiling fraction cap currentBalance ≠ .inf := by
  unfold ceiling pyMin
  split_ifs with h
  · exact nofun
  · intro hinf
    rw [hinf] at h
    exact h rfl

theorem ceiling_le_scale {fraction cap balance c : ℚ}
    (h : ceiling fraction cap (.num balance) = .num c) : c ≤ balance * fraction := by
  unfold ceiling pyMin at h
  split_ifs at h with hlt
  · cases h
    simp only [PyFloat.scale, PyFloat.lt, decide_eq_true_eq] at hlt
    exact hlt.le
  · cases h
    exact le_rfl

theorem ceiling_le_cap {fraction cap c : ℚ} {currentBalance : PyFloat}
    (h : ceiling fraction cap currentBalance = .num c) : c ≤ cap := by
  unfold ceiling pyMin at h
  split_ifs at h with hlt
  · cases h
    exact le_rfl
  · rw [h] at hlt
    simpa [PyFloat.lt] using hlt

theorem roundedUniform_mem {lo hi : ℚ} {a b : ℤ} (h : lo ≤ hi) (ha : (a : ℚ) / 100 ≤ lo)
    (hb : hi ≤ (b : ℚ) / 100) :
    (roundedUniform lo hi).Always fun x => (a : ℚ) / 100 ≤ x ∧ x ≤ (b : ℚ) / 100 ∧ Cents x := by
  rw [roundedUniform, Proc.always_map]
  exact (uniform_mem h).mono fun x ⟨hlo, hhi⟩ =>
    ⟨le_round2 (ha.trans hlo), round2_le_of_le (hhi.trans hb), round2_cents x⟩

theorem roundedUniform_amount {c : ℚ} (hc : 10 < c) :
    (roundedUniform 10 c).Always fun x => 10 ≤ x ∧ x ≤ c + 1 / 200 ∧ Cents x := by
  rw [roundedUniform, Proc.always_map]
  have h10 : ((1000 : ℤ) : ℚ) / 100 = 10 := by norm_num
  exact (uniform_mem hc.le).mono fun x ⟨hlo, _⟩ =>
    ⟨h10 ▸ le_round2 (h10 ▸ hlo), by linarith [round2_le x], round2_cents x⟩

/-- Wallet `a` holds `40.03`: `get_wallet` reports it, and every other request succeeds.
Every draw reads bits `0` and unit `2006/2009`; the clock reads `0`. -/
def lowBalanceEnv : Env where
  draws _ := ⟨0, 2006 / 2009⟩
  clock _ := 0
  service _ req := match req.endpoint with
    | .getWallet => .ok ⟨200, some (.obj [("balance", .float (.num (4003 / 100)))])⟩
    | _ => .ok ⟨200, some (.obj [])⟩

def requestAmount (req : Request) : Option ℚ :=
  match req.body.lookup "amount" with
  | some (.float (.num q)) => some q
  | _ => none

theorem transfer_amount_exceeds_ceiling (parseFloat : String → Except Exc PyFloat) :
    maxTransfer (.num (4003 / 100)) = .num (12009 / 1000) ∧
      ((((operationBody parseFloat 0 .transfer).run.run
          ⟨Stats.zero, [⟨.str "a", .str "user-1000", .int 100⟩,
            ⟨.str "b", .str "user-1001", .int 100⟩]⟩).run lowBalanceEnv World.start).2.requests.map
          fun r => (r.endpoint, requestAmount r)) =
        [(.getWallet, none), (.transfer, some (1201 / 100))] ∧
      (12009 / 1000 : ℚ) < 1201 / 100 := by
  refine ⟨by norm_num [maxTransfer, ceiling, pyMin, PyFloat.lt, PyFloat.scale], ?_, by norm_num⟩
  rw [show (1201 / 100 : ℚ) = round2 (12006 / 1000) by
    norm_num [round2, roundHalfEven, Int.floor_eq_iff]]
  with_unfolding_all rfl

end WalletLoadTest.LoadTestWallets
