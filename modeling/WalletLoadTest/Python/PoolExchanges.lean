import Mathlib.Data.List.ReduceOption
import WalletLoadTest.Python.Pool
import WalletLoadTest.Python.Dialog

/-!
# What the calls of a pool exchange with the service

When every call submitted to the pool makes at most one request, the exchanges a
run of the pool adds to the world are, as a multiset, the exchanges of its calls:
the one each running call has made so far, if any, and the one of each completed
and each consumed future.  Every step of every thread keeps this accounting
(`Step.exchanged`), so it holds under any interleaving of the workers and any
completion order; once the `with` block is over, the exchanges are those of the
completed futures, each related by `Q` to its result (`Exchanged.finished`).  The calls and results carry the exchange as a ghost,
beside the pool.
-/

namespace WalletLoadTest.Python

namespace Pool

variable {τ β σ : Type}

def madeExchanges (running : List (Job τ β × Option Exchange))
    (results : List ((τ × β) × Option Exchange)) : List Exchange :=
  (running.map Prod.snd ++ results.map Prod.snd).reduceOption

variable (Q : τ → β → Option Exchange → Prop) (w₀ : World)

def Exchanged (s : Pool τ β σ) : Prop :=
  (∀ j ∈ s.queue, j.code.AtMostOnce (Q j.tag)) ∧
    ∃ (running : List (Job τ β × Option Exchange)) (done collected : List ((τ × β) × Option Exchange)),
      running.map Prod.fst = s.running ∧ done.map Prod.fst = s.done ∧
      collected.map Prod.fst = s.collected ∧
      (∀ p ∈ running, p.1.code.Guarded FirstRequest (Q p.1.tag) p.2) ∧
      (∀ p ∈ done ++ collected, Q p.1.1 p.1.2 p.2) ∧
      ∃ new, s.world.exchanges = w₀.exchanges ++ new ∧
        new.Perm (madeExchanges running (done ++ collected))

theorem exchanged_init (n : Nat) (g : σ) : Exchanged Q w₀ (init n g w₀ : Pool τ β σ) :=
  ⟨List.forall_mem_nil _, [], [], [], rfl, rfl, rfl, List.forall_mem_nil _, List.forall_mem_nil _,
    [], (List.append_nil _).symm, .nil⟩

theorem exists_of_map_fst_eq {γ : Type} {l : List (α × γ)} {pre post : List α} {x : α}
    (h : l.map Prod.fst = pre ++ x :: post) :
    ∃ lpre c lpost, l = lpre ++ (x, c) :: lpost ∧ lpre.map Prod.fst = pre ∧
      lpost.map Prod.fst = post := by
  obtain ⟨l₁, l₂, rfl, h₁, h₂⟩ := List.map_eq_append_iff.1 h
  obtain ⟨⟨a, c⟩, l₃, rfl, rfl, h₃⟩ := List.map_eq_cons_iff.1 h₂
  exact ⟨l₁, c, l₃, rfl, h₁, h₃⟩

variable {Q w₀} {env : Env} {ex : Executor τ β σ}

theorem madeExchanges_perm {running running' : List (Job τ β × Option Exchange)}
    {results results' : List ((τ × β) × Option Exchange)}
    (h : (running.map Prod.snd ++ results.map Prod.snd).Perm
      (running'.map Prod.snd ++ results'.map Prod.snd)) :
    (madeExchanges running results).Perm (madeExchanges running' results') :=
  h.filterMap id

theorem Step.exchanged {s s' : Pool τ β σ} (hs : Step env ex s s')
    (hsubmit : ∀ i, (ex.submit i).Sends (fun _ => False) ∧
      (ex.submit i).Always fun p => p.2.AtMostOnce (Q p.1))
    (hcollect : ∀ b, Script.Sends (fun _ => False) (ex.collect b))
    (h : Exchanged Q w₀ s) : Exchanged Q w₀ s' := by
  classical
  obtain ⟨hq, running, done, collected, hr, hd, hc, hrun, hres, new, hw, hperm⟩ := h
  cases hs with
  | @submit i rest _ =>
    refine ⟨?_, running, done, collected, hr, hd, hc, hrun, hres, new, ?_, hperm⟩
    · simp only [afterSubmit, List.forall_mem_append, List.forall_mem_singleton]
      exact ⟨hq, (hsubmit i).2.run env s.world⟩
    · rw [← hw]
      exact Proc.exchanges_run_of_silent (hsubmit i).1 env s.world
  | @start j rest h _ =>
    rw [h, List.forall_mem_cons] at hq
    refine ⟨hq.2, running ++ [(j, none)], done, collected, by simp [hr], hd, hc, ?_, hres, new, hw, ?_⟩
    · simpa only [List.forall_mem_append, List.forall_mem_singleton] using ⟨hrun, hq.1⟩
    · simpa [madeExchanges, List.reduceOption_append] using hperm
  | @advance pre post j code w' h hstep =>
    obtain ⟨rpre, l, rpost, rfl, hpre, hpost⟩ := exists_of_map_fst_eq (hr.trans h)
    have hj := hrun _ (List.mem_append_right _ (List.mem_cons_self _ _))
    rw [List.forall_mem_append, List.forall_mem_cons] at hrun
    rcases hj.step hstep with ⟨hcode, hw'⟩ | ⟨e, rfl, hcode, hw'⟩
    · refine ⟨hq, rpre ++ (⟨j.tag, code⟩, l) :: rpost, done, collected, by simp [hpre, hpost], hd, hc,
        ?_, hres, new, hw'.trans hw, by simpa [madeExchanges] using hperm⟩
      simpa only [List.forall_mem_append, List.forall_mem_cons] using ⟨hrun.1, hcode, hrun.2.2⟩
    · refine ⟨hq, rpre ++ (⟨j.tag, code⟩, some e) :: rpost, done, collected, by simp [hpre, hpost],
        hd, hc, ?_, hres, new ++ [e], by rw [hw', hw, List.append_assoc], ?_⟩
      · simpa only [List.forall_mem_append, List.forall_mem_cons] using ⟨hrun.1, hcode, hrun.2.2⟩
      · refine (hperm.append_right [e]).trans (List.perm_iff_count.2 fun a => ?_)
        simp only [madeExchanges, List.map_append, List.map_cons, List.reduceOption_append,
          List.reduceOption_cons_of_none, List.reduceOption_cons_of_some, List.count_append,
          List.count_cons, List.count_nil]
        omega
  | @finish pre post t b h =>
    obtain ⟨rpre, l, rpost, rfl, hpre, hpost⟩ := exists_of_map_fst_eq (hr.trans h)
    have hj := hrun _ (List.mem_append_right _ (List.mem_cons_self _ _))
    rw [List.forall_mem_append, List.forall_mem_cons] at hrun
    refine ⟨hq, rpre ++ rpost, done ++ [((t, b), l)], collected, by simp [hpre, hpost],
      by simp [hd], hc, List.forall_mem_append.2 ⟨hrun.1, hrun.2.2⟩, ?_, new, hw,
      hperm.trans (madeExchanges_perm ?_)⟩
    · rw [List.forall_mem_append] at hres
      simpa only [List.forall_mem_append, List.forall_mem_singleton] using ⟨⟨hres.1, hj⟩, hres.2⟩
    · exact List.perm_iff_count.2 fun a => by
        simp only [List.map_append, List.map_cons, List.map_nil, List.count_append, List.count_cons,
          List.count_nil]
        omega
  | @collect pre post t b _ _ h =>
    obtain ⟨dpre, l, dpost, rfl, hpre, hpost⟩ := exists_of_map_fst_eq (hd.trans h)
    refine ⟨hq, running, dpre ++ dpost, collected ++ [((t, b), l)], hr, by simp [afterCollect, hpre, hpost],
      by simp [afterCollect, hc], hrun, ?_, new, ?_, hperm.trans (madeExchanges_perm ?_)⟩
    · refine fun p hp => hres p (List.Perm.subset ?_ hp)
      exact List.perm_iff_count.2 fun a => by
        simp only [List.count_append, List.count_cons, List.count_nil]
        omega
    · rw [← hw]
      exact Proc.exchanges_run_of_silent (hcollect b s.globals) env s.world
    · exact List.perm_iff_count.2 fun a => by
        simp only [List.map_append, List.map_cons, List.map_nil, List.count_append, List.count_cons,
          List.count_nil]
        omega

/-- Whatever the interleaving, a run from `init` keeps the accounting. -/
theorem Runs.exchanged {n : Nat} {g : σ} {s : Pool τ β σ}
    (hsubmit : ∀ i, (ex.submit i).Sends (fun _ => False) ∧
      (ex.submit i).Always fun p => p.2.AtMostOnce (Q p.1))
    (hcollect : ∀ b, Script.Sends (fun _ => False) (ex.collect b))
    (hrun : Runs env ex (init n g w₀) s) : Exchanged Q w₀ s :=
  hrun.invariant (fun hs h => hs.exchanged hsubmit hcollect h) (exchanged_init Q w₀ n g)

/-- Once the `with` block is over, the exchanges since `w₀` are, as a multiset,
those of the completed futures, each related by `Q` to its result: all of them
consumed, unless the loop body raised. -/
theorem Exchanged.finished {s : Pool τ β σ} (h : Exchanged Q w₀ s) (hfin : Finished s) :
    ∃ results : List ((τ × β) × Option Exchange), results.map Prod.fst = s.done ++ s.collected ∧
      (∀ p ∈ results, Q p.1.1 p.1.2 p.2) ∧
      ∃ new, s.world.exchanges = w₀.exchanges ++ new ∧
        new.Perm (results.map Prod.snd).reduceOption := by
  obtain ⟨-, running, done, collected, hr, hd, hc, -, hres, new, hw, hperm⟩ := h
  obtain rfl : running = [] := List.map_eq_nil_iff.1 (hr.trans hfin.2.2.1)
  exact ⟨done ++ collected, by rw [List.map_append, hd, hc], hres, new, hw,
    by simpa [madeExchanges] using hperm⟩

end Pool

end WalletLoadTest.Python
