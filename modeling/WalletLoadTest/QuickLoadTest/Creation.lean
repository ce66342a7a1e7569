import WalletLoadTest.QuickLoadTest.Acknowledged

/-!
# How many wallets the script asks for

Every call of `create_wallet` posts once to `/wallets`, whatever the answer.
Without `--fast` the loop stops at the first pass whose `result["data"]["id"]`
raises, and it asks for all `--wallets` wallets when it runs to the end.  With
`--fast` every call is submitted before the first result is read, and leaving
the `with` block waits for all of them: the pool asks for exactly `--wallets`
wallets, whatever the interleaving and even when the result loop raised.
-/

namespace WalletLoadTest.QuickLoadTest

open Python Script

theorem exec_forM_one_each {f : α → Script σ Unit} {R : Exchange → Prop} {env : Env}
    (h : ∀ a g w, ∃ e, ((f a).exec env g w).2.exchanges = w.exchanges ++ [e] ∧ R e) :
    ∀ (xs : List α) (g : σ) (w : World), ∃ new,
      ((xs.forM f).exec env g w).2.exchanges = w.exchanges ++ new ∧ (∀ e ∈ new, R e) ∧
        new.length ≤ xs.length ∧ (((xs.forM f).exec env g w).1.1 = .ok () → new.length = xs.length)
  | [], _, _ => ⟨[], (List.append_nil _).symm, fun _ h => absurd h (List.not_mem_nil _), le_rfl, fun _ => rfl⟩
  | a :: xs, g, w => by
    rw [List.forM_cons', exec_bind]
    obtain ⟨e, he, hR⟩ := h a g w
    generalize (f a).exec env g w = p at he
    obtain ⟨⟨_ | _, g'⟩, w'⟩ := p
    · exact ⟨[e], he, fun e' he' => List.mem_singleton.1 he' ▸ hR, by simp, fun h => nomatch h⟩
    · obtain ⟨new, hw, hnew, hlen, hok⟩ := exec_forM_one_each h xs g' w'
      refine ⟨e :: new, by rw [hw, he, List.append_assoc]; rfl, ?_, by simp [hlen], fun h => by
        simp [hok h]⟩
      exact fun e' he' => (List.mem_cons.1 he').elim (· ▸ hR) (hnew e')

theorem creationPass_once (i : Nat) (env : Env) (g : Globals) (w : World) :
    ∃ e, ((liftProc (createWallet i) >>= recordCreation).exec env g w).2.exchanges =
      w.exchanges ++ [e] ∧ e.1.endpoint = .createWallet := by
  rw [exec_bind, exec_liftProc]
  obtain ⟨o, hw, e, rfl, he⟩ := (createWallet_once i).run env w
  exact ⟨e, (Proc.exchanges_run_of_silent (recordCreation_silent _ g) env _).trans hw, he⟩

theorem creationPool_requests {env : Env} {workers n : Nat} {g₀ : Globals} {w : World}
    {s : Pool Nat CreateResult Globals}
    (hrun : Pool.Runs env (creationExecutor workers) (Pool.init n g₀ w) s) (hfin : s.Finished) :
    ∃ new, s.world.exchanges = w.exchanges ++ new ∧ (∀ e ∈ new, e.1.endpoint = .createWallet) ∧
      new.length = n := by
  obtain ⟨calls, hcalls, hreq, new, hw, hnew⟩ :=
    (hrun.exchanged (Q := fun _ _ => CreateRequest) (creationExecutor_atMostOnce workers)
      recordCreation_silent).finished hfin
  obtain ⟨hacc, hcount, -⟩ := hrun.reachable (fun _ _ => True) (fun _ _ => True) (fun _ _ => True)
    (fun _ => Proc.always_true _) (fun _ _ _ _ => fun _ _ => Proc.always_of_forall
      (fun p => by rcases p with ⟨_ | _, _⟩ <;> trivial) _) trivial
  obtain ⟨hpending, hqueue, hrunning, -⟩ := hfin
  have hsome : ∀ o ∈ calls.map Prod.snd, o.isSome := fun o ho => by
    obtain ⟨p, hp, rfl⟩ := List.mem_map.1 ho
    obtain ⟨e, he, -⟩ := hreq p hp
    rw [he]
    rfl
  refine ⟨new, hw, fun e he => ?_, ?_⟩
  · obtain ⟨p, hp, hpe⟩ := List.mem_map.1 (List.reduceOption_mem_iff.1 (hnew.subset he))
    obtain ⟨e', he', hroute⟩ := hreq p hp
    rw [hpe] at he'
    exact Option.some.inj he' ▸ hroute
  · have hsubmitted : (s.done ++ s.collected).length = s.submitted.length := by
      simpa [Pool.Accounted, hqueue, hrunning] using hacc.length_eq
    rw [hnew.length_eq, List.reduceOption_length_eq_iff.2 hsome, List.length_map,
      ← List.length_map calls Prod.fst, hcalls, hsubmitted, ← hcount, hpending, List.length_nil,
      Nat.add_zero]

/-- Without `--fast`, the creation loop asks for at most one wallet per pass, and
for all of them when it runs to the end; with `--fast`, it asks for exactly
`--wallets` wallets, whatever the interleaving of the pool's threads and even
when reading a result raised. -/
theorem wallet_requests_in_both_modes (wallets : Nat) :
    (∀ env g w, ∃ new, ((creationSequential wallets).exec env g w).2.exchanges = w.exchanges ++ new ∧
      (∀ e ∈ new, e.1.endpoint = .createWallet) ∧ new.length ≤ wallets ∧
      (((creationSequential wallets).exec env g w).1.1 = .ok () → new.length = wallets)) ∧
    ∀ {env : Env} {workers : Nat} {g w} {s : Pool Nat CreateResult Globals},
      Pool.Runs env (creationExecutor workers) (Pool.init wallets g w) s → s.Finished →
        ∃ new, s.world.exchanges = w.exchanges ++ new ∧ (∀ e ∈ new, e.1.endpoint = .createWallet) ∧
          new.length = wallets :=
  ⟨fun env g w => by
      simpa using exec_forM_one_each (fun i => creationPass_once i env) (List.range wallets) g w,
    creationPool_requests⟩

/-- The service answers every request with `200 {}`: no result has an id. -/
def answersWithoutId : Env := ⟨fun _ => ⟨0, 0⟩, fun _ => 0, fun _ _ => .ok ⟨200, some (.obj [])⟩⟩

/-- Two wallets with `--fast` on one worker: reading the first result raises
`KeyError('id')`, and both wallets were asked for. -/
theorem wallet_requests_in_both_modes_key_error :
    (Pool.serial answersWithoutId (creationExecutor 1) 2 Globals.initial World.start).raised =
        some (.exception (.keyError "id")) ∧
      ∃ new, (Pool.serial answersWithoutId (creationExecutor 1) 2 Globals.initial World.start).world.exchanges =
          World.start.exchanges ++ new ∧ (∀ e ∈ new, e.1.endpoint = .createWallet) ∧ new.length = 2 :=
  ⟨rfl, (wallet_requests_in_both_modes 2).2 (Pool.serial_runs (by decide) _ _ _).1
    (Pool.serial_runs (by decide) _ _ _).2⟩

end WalletLoadTest.QuickLoadTest
