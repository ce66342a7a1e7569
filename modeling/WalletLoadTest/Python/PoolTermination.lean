import Mathlib.Logic.Hydra
import Mathlib.Tactic.Abel
import WalletLoadTest.Python.Pool

/-!
# The `with` block always ends

Every step of the pool moves one piece of work one stage on: a pending index
becomes a queued call, a queued call starts running, a running call performs one
effect or completes, a completed future is consumed.  A running call's code only
shrinks, to a subtree of its effect tree.  So the multiset of the pieces, each
ranked by its stage and, while it runs, by its code, goes down at every step in
the multiset order (`Relation.CutExpand`), and no interleaving of the threads
runs forever (`step_wf`).  With at least one worker, some thread can move until
the block is over (`exists_step_of_not_finished`).
-/

namespace WalletLoadTest.Python

namespace Pool

variable {τ β σ : Type}

inductive Piece (β : Type) where
  | pending
  | queued (code : Proc β)
  | running (code : Proc β)
  | completed

inductive Piece.Lt : Piece β → Piece β → Prop
  | queued_pending (code : Proc β) : Lt (.queued code) .pending
  | running_queued (code : Proc β) : Lt (.running code) (.queued code)
  | running_draw (k : Draw → Proc β) (d : Draw) : Lt (.running (k d)) (.running (.draw k))
  | running_time (k : ℚ → Proc β) (t : ℚ) : Lt (.running (k t)) (.running (.time k))
  | running_send (req : Request) (k : Reply → Proc β) (r : Reply) :
      Lt (.running (k r)) (.running (.send req k))
  | completed_running (code : Proc β) : Lt .completed (.running code)

theorem Piece.acc_completed : Acc (@Piece.Lt β) .completed :=
  ⟨_, fun _ h => nomatch h⟩

theorem Piece.acc_running (code : Proc β) : Acc Piece.Lt (Piece.running code) := by
  induction code with
  | ret b => exact ⟨_, fun _ h => by cases h; exact acc_completed⟩
  | draw k ih => exact ⟨_, fun _ h => by cases h <;> first | exact ih _ | exact acc_completed⟩
  | time k ih => exact ⟨_, fun _ h => by cases h <;> first | exact ih _ | exact acc_completed⟩
  | send req k ih => exact ⟨_, fun _ h => by cases h <;> first | exact ih _ | exact acc_completed⟩

theorem Piece.lt_wf : WellFounded (@Piece.Lt β) := by
  refine ⟨fun p => ?_⟩
  have hqueued : ∀ code : Proc β, Acc Piece.Lt (Piece.queued code) :=
    fun code => ⟨_, fun _ h => by cases h; exact acc_running code⟩
  cases p with
  | pending => exact ⟨_, fun _ h => by cases h; exact hqueued _⟩
  | queued code => exact hqueued code
  | running code => exact acc_running code
  | completed => exact acc_completed

theorem Piece.lt_of_step {code code' : Proc β} {env : Env} {w w' : World}
    (h : code.step env w = some (code', w')) : Piece.Lt (.running code') (.running code) := by
  cases code with
  | ret b => exact nomatch h
  | draw k => obtain ⟨rfl, -⟩ := Prod.mk.inj (Option.some.inj h); exact .running_draw k _
  | time k => obtain ⟨rfl, -⟩ := Prod.mk.inj (Option.some.inj h); exact .running_time k _
  | send req k => obtain ⟨rfl, -⟩ := Prod.mk.inj (Option.some.inj h); exact .running_send req k _

def pieces (s : Pool τ β σ) : Multiset (Piece β) :=
  Multiset.replicate s.pending.length .pending + ↑(s.queue.map fun j => Piece.queued j.code) +
    ↑(s.running.map fun j => Piece.running j.code) + Multiset.replicate s.done.length .completed

variable {env : Env} {ex : Executor τ β σ}

theorem Step.pieces_lt {s s' : Pool τ β σ} (hs : Step env ex s s') :
    Relation.CutExpand Piece.Lt (pieces s') (pieces s) := by
  cases hs with
  | @submit i rest h =>
    refine ⟨{.queued ((ex.submit i).run env s.world).1.2}, .pending,
      fun _ ha => Multiset.mem_singleton.1 ha ▸ .queued_pending _, ?_⟩
    simp only [pieces, afterSubmit, h, List.length_cons, Multiset.replicate_succ, List.map_append,
      List.map_cons, List.map_nil, ← Multiset.coe_add, ← Multiset.singleton_add, Multiset.coe_singleton]
    abel
  | @start j rest h _ =>
    refine ⟨{.running j.code}, .queued j.code,
      fun _ ha => Multiset.mem_singleton.1 ha ▸ .running_queued _, ?_⟩
    simp only [pieces, h, List.map_append, List.map_cons, List.map_nil, ← Multiset.coe_add,
      ← Multiset.cons_coe, ← Multiset.singleton_add, Multiset.coe_singleton]
    abel
  | @advance pre post j code w h hstep =>
    refine ⟨{.running code}, .running j.code,
      fun _ ha => Multiset.mem_singleton.1 ha ▸ Piece.lt_of_step hstep, ?_⟩
    simp only [pieces, h, List.map_append, List.map_cons, ← Multiset.coe_add, ← Multiset.cons_coe,
      ← Multiset.singleton_add]
    abel
  | @finish pre post t b h =>
    refine ⟨{.completed}, .running (.ret b),
      fun _ ha => Multiset.mem_singleton.1 ha ▸ .completed_running _, ?_⟩
    simp only [pieces, h, List.map_append, List.map_cons, List.length_append, List.length_singleton,
      Multiset.replicate_add, Multiset.replicate_one, ← Multiset.coe_add, ← Multiset.cons_coe,
      ← Multiset.singleton_add]
    abel
  | @collect pre post t b _ _ h =>
    refine ⟨0, .completed, fun _ ha => absurd ha (Multiset.not_mem_zero _), ?_⟩
    simp only [pieces, afterCollect, h, List.length_append, List.length_cons, Multiset.replicate_add,
      Multiset.replicate_succ, ← Multiset.singleton_add, add_zero]
    abel

/-- No interleaving of the threads runs forever. -/
theorem step_wf (env : Env) (ex : Executor τ β σ) :
    WellFounded fun s' s : Pool τ β σ => Step env ex s s' :=
  Subrelation.wf (fun h => Step.pieces_lt h) (InvImage.wf pieces Piece.lt_wf.cutExpand)

/-- With at least one worker, some thread can move until the block is over. -/
theorem exists_step_of_not_finished (hw : 0 < ex.workers) (s : Pool τ β σ) (hfin : ¬ s.Finished) :
    ∃ s', Step env ex s s' := by
  rcases hp : s.pending with _ | ⟨i, rest⟩
  swap
  · exact ⟨_, .submit hp⟩
  rcases hr : s.running with _ | ⟨⟨tag, code⟩, rest⟩
  · rcases hq : s.queue with _ | ⟨j, rest⟩
    · rcases hd : s.done with _ | ⟨⟨t, b⟩, post⟩
      · exact absurd ⟨hp, hq, hr, .inl hd⟩ hfin
      · cases hm : s.raised with
        | none => exact ⟨_, .collect hp hm (show s.done = [] ++ (t, b) :: post from hd)⟩
        | some r => exact absurd ⟨hp, hq, hr, .inr (by rw [hm]; exact Option.some_ne_none r)⟩ hfin
    · exact ⟨_, .start hq (by rw [hr]; exact hw)⟩
  · cases code with
    | ret b => exact ⟨_, .finish (show s.running = [] ++ _ :: rest from hr)⟩
    | draw k => exact ⟨_, .advance (show s.running = [] ++ _ :: rest from hr) rfl⟩
    | time k => exact ⟨_, .advance (show s.running = [] ++ _ :: rest from hr) rfl⟩
    | send req k => exact ⟨_, .advance (show s.running = [] ++ _ :: rest from hr) rfl⟩

/-- The `with` block ends whatever the threads do: no run is infinite, a run that
cannot go on has finished, and from any state the block can be run to its end. -/
def AlwaysEnds (env : Env) (ex : Executor τ β σ) : Prop :=
  (WellFounded fun s' s : Pool τ β σ => Step env ex s s') ∧
    (∀ s : Pool τ β σ, (∀ s', ¬ Step env ex s s') → s.Finished) ∧
    ∀ s : Pool τ β σ, ∃ s', Runs env ex s s' ∧ s'.Finished

theorem alwaysEnds (hw : 0 < ex.workers) : AlwaysEnds env ex := by
  refine ⟨step_wf env ex, fun s hstuck => ?_, fun s => ?_⟩
  · by_contra hfin
    obtain ⟨s', hs⟩ := exists_step_of_not_finished hw s hfin
    exact hstuck s' hs
  · induction s using (step_wf env ex).induction with
    | h s ih =>
      by_cases hfin : s.Finished
      · exact ⟨s, .refl, hfin⟩
      · obtain ⟨s', hs⟩ := exists_step_of_not_finished hw s hfin
        obtain ⟨s'', hrun, hend⟩ := ih s' hs
        exact ⟨s'', .head hs hrun, hend⟩

end Pool

end WalletLoadTest.Python
