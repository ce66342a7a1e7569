import WalletLoadTest.Python.Trace

/-!
# `ThreadPoolExecutor` and `as_completed`

The parallel mode of `quick_load_test.py` runs

    with ThreadPoolExecutor(max_workers=workers) as executor:
        futures = [executor.submit(f, args...) for _ in range(n)]
        for future in as_completed(futures):
            body(future.result())

The model is a step relation.  The main thread evaluates the arguments of each
`submit` in turn (for the operations, one `random.choice`) and queues the call.
Up to `max_workers` worker threads take calls from the queue in order, and every
running call performs its effects one at a time, interleaved in any order with
the other calls and with the main thread: each effect consumes the next draw of
the one shared `random` stream, the next clock reading or the next answer of the
service.  Once the list comprehension is done, `as_completed` yields the
completed futures, in any order, and the main thread runs the loop body on each,
on the module globals.  If the body raises, the `with` block still waits for the
queued and running calls before the exception leaves it.

`submitted` and `collected` are ghost components: the tags the calls were
submitted with, and the futures the loop has consumed.  The results are the
invariants of any run (`Runs`) from `init`, and what they give at a finished
state (`Reachable.finished`).
-/

namespace WalletLoadTest.Python

/-- A submitted call: what it was submitted with, and the code it has still to run. -/
structure Job (τ β : Type) where
  tag : τ
  code : Proc β

/-- What the parallel block does: the pool size, one iteration of the submitting
comprehension, and the body of the `as_completed` loop. -/
structure Executor (τ β σ : Type) where
  workers : Nat
  submit : Nat → Proc (τ × Proc β)
  collect : β → Script σ Unit

structure Pool (τ β σ : Type) where
  pending : List Nat
  queue : List (Job τ β)
  running : List (Job τ β)
  done : List (τ × β)
  submitted : List τ
  collected : List (τ × β)
  globals : σ
  raised : Option Raise
  world : World

namespace Pool

variable {τ β σ : Type}

def init (n : Nat) (g : σ) (w : World) : Pool τ β σ := ⟨List.range n, [], [], [], [], [], g, none, w⟩

def afterSubmit (s : Pool τ β σ) (rest : List Nat) (out : (τ × Proc β) × World) : Pool τ β σ :=
  { s with pending := rest, queue := s.queue ++ [⟨out.1.1, out.1.2⟩],
           submitted := s.submitted ++ [out.1.1], world := out.2 }

def afterCollect (s : Pool τ β σ) (done : List (τ × β)) (item : τ × β)
    (out : (Except Raise Unit × σ) × World) : Pool τ β σ :=
  { s with done := done, collected := s.collected ++ [item], globals := out.1.2,
           raised := match out.1.1 with | .ok _ => none | .error r => some r, world := out.2 }

inductive Step (env : Env) (ex : Executor τ β σ) : Pool τ β σ → Pool τ β σ → Prop
  | submit {s : Pool τ β σ} {i : Nat} {rest : List Nat} (h : s.pending = i :: rest) :
      Step env ex s (s.afterSubmit rest ((ex.submit i).run env s.world))
  | start {s : Pool τ β σ} {j : Job τ β} {rest : List (Job τ β)} (h : s.queue = j :: rest)
      (hfree : s.running.length < ex.workers) :
      Step env ex s { s with queue := rest, running := s.running ++ [j] }
  | advance {s : Pool τ β σ} {pre post : List (Job τ β)} {j : Job τ β} {code : Proc β}
      {w : World} (h : s.running = pre ++ j :: post)
      (hstep : j.code.step env s.world = some (code, w)) :
      Step env ex s { s with running := pre ++ ⟨j.tag, code⟩ :: post, world := w }
  | finish {s : Pool τ β σ} {pre post : List (Job τ β)} {t : τ} {b : β}
      (h : s.running = pre ++ ⟨t, .ret b⟩ :: post) :
      Step env ex s { s with running := pre ++ post, done := s.done ++ [(t, b)] }
  | collect {s : Pool τ β σ} {pre post : List (τ × β)} {t : τ} {b : β}
      (hsub : s.pending = []) (hmain : s.raised = none) (h : s.done = pre ++ (t, b) :: post) :
      Step env ex s (s.afterCollect (pre ++ post) (t, b)
        (((ex.collect b).run.run s.globals).run env s.world))

def Runs (env : Env) (ex : Executor τ β σ) : Pool τ β σ → Pool τ β σ → Prop :=
  Relation.ReflTransGen (Step env ex)

def Finished (s : Pool τ β σ) : Prop :=
  s.pending = [] ∧ s.queue = [] ∧ s.running = [] ∧ (s.done = [] ∨ s.raised ≠ none)

/-! ## Accounting: every submitted call is in exactly one place -/

def Accounted (s : Pool τ β σ) : Prop :=
  (s.queue.map Job.tag ++ s.running.map Job.tag ++ s.done.map Prod.fst ++
    s.collected.map Prod.fst).Perm s.submitted

theorem accounted_init (n : Nat) (g : σ) (w : World) : Accounted (init n g w : Pool τ β σ) :=
  List.Perm.refl _

variable {env : Env} {ex : Executor τ β σ}

theorem Step.accounted [DecidableEq τ] {s s' : Pool τ β σ} (hs : Step env ex s s')
    (ha : Accounted s) : Accounted s' := by
  have hc := List.perm_iff_count.mp ha
  refine List.perm_iff_count.mpr fun a => ?_
  have ha := hc a
  cases hs with
  | submit h =>
    simp only [afterSubmit, List.map_append, List.map_cons, List.map_nil, List.count_append,
      List.count_cons, List.count_nil] at ha ⊢
    omega
  | start h _ =>
    simp only [h, List.map_append, List.map_cons, List.map_nil, List.count_append,
      List.count_cons, List.count_nil] at ha ⊢
    omega
  | advance h _ => simpa [h] using ha
  | finish h =>
    simp only [h, List.map_append, List.map_cons, List.map_nil, List.count_append,
      List.count_cons, List.count_nil] at ha ⊢
    omega
  | collect _ _ h =>
    simp only [afterCollect, h, List.map_append, List.map_cons, List.map_nil,
      List.count_append, List.count_cons, List.count_nil] at ha ⊢
    omega

def Counted (n : Nat) (s : Pool τ β σ) : Prop := s.submitted.length + s.pending.length = n

theorem Step.counted {n : Nat} {s s' : Pool τ β σ} (hs : Step env ex s s') (hn : Counted n s) :
    Counted n s' := by
  cases hs with
  | submit h =>
    simp only [Counted, afterSubmit, h, List.length_append, List.length_cons,
      List.length_nil] at hn ⊢
    omega
  | _ => exact hn

/-! ## Results: what every call returns, and what the main thread keeps -/

section Results

variable (R : τ → β → Prop)

def Typed (s : Pool τ β σ) : Prop :=
  (∀ j ∈ s.queue, j.code.Always (R j.tag)) ∧ (∀ j ∈ s.running, j.code.Always (R j.tag)) ∧
    (∀ p ∈ s.done, R p.1 p.2) ∧ (∀ p ∈ s.collected, R p.1 p.2)

theorem typed_init (n : Nat) (g : σ) (w : World) : Typed R (init n g w : Pool τ β σ) := by
  simp [Typed, init]

theorem Step.typed {s s' : Pool τ β σ} (hs : Step env ex s s')
    (hsubmit : ∀ i, (ex.submit i).Always fun p => p.2.Always (R p.1)) (ht : Typed R s) :
    Typed R s' := by
  obtain ⟨hq, hr, hd, hc⟩ := ht
  cases hs with
  | @submit i rest h =>
    refine ⟨?_, hr, hd, hc⟩
    simp only [afterSubmit, List.forall_mem_append, List.forall_mem_singleton]
    exact ⟨hq, (hsubmit i).run env s.world⟩
  | start h _ =>
    rw [h, List.forall_mem_cons] at hq
    refine ⟨hq.2, ?_, hd, hc⟩
    simp only [List.forall_mem_append, List.forall_mem_singleton]
    exact ⟨hr, hq.1⟩
  | advance h hstep =>
    rw [h, List.forall_mem_append, List.forall_mem_cons] at hr
    refine ⟨hq, ?_, hd, hc⟩
    simp only [List.forall_mem_append, List.forall_mem_cons]
    exact ⟨hr.1, hr.2.1.step hstep, hr.2.2⟩
  | finish h =>
    rw [h, List.forall_mem_append, List.forall_mem_cons] at hr
    refine ⟨hq, ?_, ?_, hc⟩
    · simp only [List.forall_mem_append]
      exact ⟨hr.1, hr.2.2⟩
    · simp only [List.forall_mem_append, List.forall_mem_singleton]
      exact ⟨hd, hr.2.1⟩
  | collect _ _ h =>
    rw [h, List.forall_mem_append, List.forall_mem_cons] at hd
    refine ⟨hq, hr, ?_, ?_⟩
    · simp only [afterCollect, List.forall_mem_append]
      exact ⟨hd.1, hd.2.2⟩
    · simp only [afterCollect, List.forall_mem_append, List.forall_mem_singleton]
      exact ⟨hc, hd.2.1⟩

variable (I : List (τ × β) → σ → Prop) (E : Raise → σ → Prop)

def MainInv (s : Pool τ β σ) : Prop :=
  match s.raised with
  | none => I s.collected s.globals
  | some r => E r s.globals

theorem Step.mainInv {s s' : Pool τ β σ} (hs : Step env ex s s')
    (hcollect : ∀ c t b, R t b → Script.Spec (I c) (ex.collect b)
      (fun _ g => I (c ++ [(t, b)]) g) E)
    (ht : Typed R s) (hm : MainInv I E s) : MainInv I E s' := by
  cases hs with
  | @collect pre post t b _ hmain h =>
    have hR : R t b := ht.2.2.1 (t, b) (by simp [h])
    have hend := (hcollect s.collected t b hR s.globals (by simpa [MainInv, hmain] using hm)).run
      env s.world
    simp only [MainInv, afterCollect]
    generalize (((ex.collect b).run.run s.globals).run env s.world).1 = p at hend
    rcases p with ⟨_ | _, g⟩ <;> exact hend
  | submit => exact hm
  | start => exact hm
  | advance => exact hm
  | finish => exact hm

end Results

/-! ## Runs -/

theorem Runs.invariant {P : Pool τ β σ → Prop} {s s' : Pool τ β σ}
    (hstep : ∀ {a b}, Step env ex a b → P a → P b) (hs : Runs env ex s s') (h : P s) : P s' := by
  induction hs with
  | refl => exact h
  | tail _ step ih => exact hstep step ih

/-! ## Requests: what any interleaving sends -/

section Requests

variable (R : Request → Prop)

def SendsOnly (s : Pool τ β σ) : Prop :=
  (∀ j ∈ s.queue, j.code.Sends R) ∧ ∀ j ∈ s.running, j.code.Sends R

variable {R}

theorem Step.sendsOnly {s s' : Pool τ β σ} (hs : Step env ex s s')
    (hsubmit : ∀ i, (ex.submit i).Sends R ∧ (ex.submit i).Always fun p => p.2.Sends R)
    (hcollect : ∀ b, Script.Sends R (ex.collect b)) (h : SendsOnly R s) :
    SendsOnly R s' ∧ World.SentSince R s.world s'.world := by
  obtain ⟨hq, hr⟩ := h
  cases hs with
  | @submit i rest _ =>
    refine ⟨⟨?_, hr⟩, (hsubmit i).1.run env s.world⟩
    simp only [afterSubmit, List.forall_mem_append, List.forall_mem_singleton]
    exact ⟨hq, (hsubmit i).2.run env s.world⟩
  | start h _ =>
    rw [h, List.forall_mem_cons] at hq
    exact ⟨⟨hq.2, List.forall_mem_append.2 ⟨hr, List.forall_mem_singleton.2 hq.1⟩⟩, .refl R _⟩
  | advance h hstep =>
    rw [h, List.forall_mem_append, List.forall_mem_cons] at hr
    obtain ⟨hcode, hw⟩ := hr.2.1.step hstep
    refine ⟨⟨hq, ?_⟩, hw⟩
    simp only [List.forall_mem_append, List.forall_mem_cons]
    exact ⟨hr.1, hcode, hr.2.2⟩
  | finish h =>
    rw [h, List.forall_mem_append, List.forall_mem_cons] at hr
    exact ⟨⟨hq, List.forall_mem_append.2 ⟨hr.1, hr.2.2⟩⟩, .refl R _⟩
  | @collect _ _ _ b _ _ _ => exact ⟨⟨hq, hr⟩, (hcollect b s.globals).run env s.world⟩

theorem Runs.sentSince {n : Nat} {g : σ} {w : World} {s : Pool τ β σ}
    (hsubmit : ∀ i, (ex.submit i).Sends R ∧ (ex.submit i).Always fun p => p.2.Sends R)
    (hcollect : ∀ b, Script.Sends R (ex.collect b)) (hrun : Runs env ex (init n g w) s) :
    World.SentSince R w s.world :=
  (hrun.invariant (P := fun s' => SendsOnly R s' ∧ World.SentSince R w s'.world)
    (fun hs ⟨h, hw⟩ => (hs.sendsOnly hsubmit hcollect h).imp_right hw.trans)
    ⟨⟨List.forall_mem_nil _, List.forall_mem_nil _⟩, .refl R w⟩).2

end Requests

section Main

variable (R : τ → β → Prop) (I : List (τ × β) → σ → Prop) (E : Raise → σ → Prop)
  {n : Nat} {g₀ : σ} {w : World} {s : Pool τ β σ}

def Reachable (n : Nat) (s : Pool τ β σ) : Prop :=
  Accounted s ∧ Counted n s ∧ Typed R s ∧ MainInv I E s

theorem Runs.reachable [DecidableEq τ] (hsubmit : ∀ i, (ex.submit i).Always fun p => p.2.Always (R p.1))
    (hcollect : ∀ c t b, R t b → Script.Spec (I c) (ex.collect b)
      (fun _ g => I (c ++ [(t, b)]) g) E)
    (h₀ : I [] g₀) (hrun : Runs env ex (init n g₀ w) s) : Reachable R I E n s :=
  hrun.invariant (fun hs ⟨ha, hn, ht, hm⟩ =>
      ⟨hs.accounted ha, hs.counted hn, hs.typed R hsubmit ht, hs.mainInv R I E hcollect ht hm⟩)
    ⟨accounted_init n g₀ w, by simp [Counted, init], typed_init R n g₀ w, h₀⟩

theorem Reachable.finished (hr : Reachable R I E n s) (hfin : Finished s)
    (hmain : s.raised = none) :
    (s.collected.map Prod.fst).Perm s.submitted ∧ s.submitted.length = n ∧
      (∀ p ∈ s.collected, R p.1 p.2) ∧ I s.collected s.globals := by
  obtain ⟨ha, hn, ht, hm⟩ := hr
  obtain ⟨hp, hq, hrun, hd | hd⟩ := hfin
  · refine ⟨?_, by simpa [Counted, hp] using hn, ht.2.2.2, by simpa [MainInv, hmain] using hm⟩
    simpa [Accounted, hq, hrun, hd] using ha
  · exact absurd hmain hd

theorem Reachable.raised {r : Raise} (hr : Reachable R I E n s) (hraised : s.raised = some r) :
    E r s.globals := by
  simpa [MainInv, hraised] using hr.2.2.2

end Main

/-! ## One schedule: submit every call, run them one at a time, then consume them

Every schedule the step relation allows is a run; this one is the easiest to
compute.  It exhibits runs on concrete inputs. -/

section Serial

variable (env : Env) (ex : Executor τ β σ)

def submitAll : List Nat → Pool τ β σ → Pool τ β σ
  | [], s => s
  | i :: rest, s => submitAll rest (s.afterSubmit rest ((ex.submit i).run env s.world))

def runAlone (s : Pool τ β σ) (j : Job τ β) (rest : List (Job τ β)) : Pool τ β σ :=
  { s with queue := rest, running := [], done := s.done ++ [(j.tag, (j.code.run env s.world).1)],
           world := (j.code.run env s.world).2 }

def runQueued : List (Job τ β) → Pool τ β σ → Pool τ β σ
  | [], s => s
  | j :: rest, s => runQueued rest (runAlone env s j rest)

def collectAll : List (τ × β) → Pool τ β σ → Pool τ β σ
  | [], s => s
  | (t, b) :: rest, s => match s.raised with
    | none => collectAll rest (s.afterCollect rest (t, b) ((ex.collect b).exec env s.globals s.world))
    | some _ => s

def serial (n : Nat) (g : σ) (w : World) : Pool τ β σ :=
  let submitted := submitAll env ex (List.range n) (init n g w)
  let ran := runQueued env submitted.queue submitted
  collectAll env ex ran.done ran

variable {env ex}

theorem runs_submitAll : ∀ (l : List Nat) (s : Pool τ β σ), s.pending = l →
    Runs env ex s (submitAll env ex l s) ∧ (submitAll env ex l s).pending = [] ∧
      (submitAll env ex l s).running = s.running
  | [], _, h => ⟨.refl, h, rfl⟩
  | _ :: rest, _, h =>
    let ⟨hrun, hp, hr⟩ := runs_submitAll rest _ rfl
    ⟨.head (Step.submit h) hrun, hp, hr⟩

theorem runs_advance (t : τ) : ∀ (code : Proc β) (s : Pool τ β σ), s.running = [⟨t, code⟩] →
    Runs env ex s { s with running := [⟨t, .ret (code.run env s.world).1⟩],
                           world := (code.run env s.world).2 }
  | .ret _, s, h => by
    cases s
    cases h
    exact .refl
  | .draw k, s, h => .head (Step.advance (h.trans (List.nil_append _).symm) rfl)
      (runs_advance t _ _ rfl)
  | .time k, s, h => .head (Step.advance (h.trans (List.nil_append _).symm) rfl)
      (runs_advance t _ _ rfl)
  | .send _ k, s, h => .head (Step.advance (h.trans (List.nil_append _).symm) rfl)
      (runs_advance t _ _ rfl)

theorem runs_runAlone (hw : 0 < ex.workers) {s : Pool τ β σ} {j : Job τ β}
    {rest : List (Job τ β)} (hq : s.queue = j :: rest) (hr : s.running = []) :
    Runs env ex s (runAlone env s j rest) := by
  have hstart : Step env ex s { s with queue := rest, running := s.running ++ [j] } :=
    Step.start hq (by simp [hr, hw])
  have hrun : Runs env ex _ _ := runs_advance j.tag j.code
    { s with queue := rest, running := s.running ++ [j] } (by simp [hr])
  have hfinish : Step env ex
      { s with
        queue := rest
        running := [⟨j.tag, .ret (j.code.run env s.world).1⟩]
        world := (j.code.run env s.world).2 }
      (runAlone env s j rest) :=
    @Step.finish _ _ _ env ex _ [] [] j.tag _ rfl
  exact .head hstart (hrun.tail hfinish)

theorem runs_runQueued (hw : 0 < ex.workers) : ∀ (l : List (Job τ β)) (s : Pool τ β σ),
    s.queue = l → s.running = [] →
    Runs env ex s (runQueued env l s) ∧ (runQueued env l s).queue = [] ∧
      (runQueued env l s).running = [] ∧ (runQueued env l s).pending = s.pending
  | [], _, hq, hr => ⟨.refl, hq, hr, rfl⟩
  | _ :: rest, _, hq, hr =>
    let ⟨hrun, hq', hr', hp'⟩ := runs_runQueued hw rest _ rfl rfl
    ⟨(runs_runAlone hw hq hr).trans hrun, hq', hr', hp'⟩

theorem runs_collectAll : ∀ (l : List (τ × β)) (s : Pool τ β σ), s.pending = [] → s.done = l →
    Runs env ex s (collectAll env ex l s) ∧
      ((collectAll env ex l s).done = [] ∨ (collectAll env ex l s).raised ≠ none) ∧
      (collectAll env ex l s).pending = [] ∧ (collectAll env ex l s).queue = s.queue ∧
      (collectAll env ex l s).running = s.running
  | [], _, hp, hd => ⟨.refl, .inl hd, hp, rfl, rfl⟩
  | (t, b) :: rest, s, hp, hd => by
    cases hm : s.raised with
    | some r =>
      rw [show collectAll env ex ((t, b) :: rest) s = s by simp [collectAll, hm]]
      exact ⟨.refl, .inr (by simp [hm]), hp, rfl, rfl⟩
    | none =>
      have hstep : Step env ex s _ := Step.collect hp hm
        (show s.done = [] ++ (t, b) :: rest from hd)
      obtain ⟨hrest, hfin, hp', hq', hr'⟩ := runs_collectAll rest
        (s.afterCollect rest (t, b) ((ex.collect b).exec env s.globals s.world)) hp rfl
      simp only [collectAll, hm]
      exact ⟨.head hstep hrest, hfin, hp', hq', hr'⟩

theorem serial_runs (hw : 0 < ex.workers) (n : Nat) (g : σ) (w : World) :
    Runs env ex (init n g w) (serial env ex n g w) ∧ (serial env ex n g w).Finished := by
  obtain ⟨hsub, hp, hr⟩ := @runs_submitAll _ _ _ env ex (List.range n) (init n g w) rfl
  obtain ⟨hran, hq', hr', hp'⟩ := runs_runQueued hw _ _ rfl hr
  obtain ⟨hcol, hfin, hp'', hq'', hr''⟩ := @runs_collectAll _ _ _ env ex _ _
    (hp'.trans hp) rfl
  exact ⟨hsub.trans (hran.trans hcol), hp'', hq''.trans hq', hr''.trans hr', hfin⟩

end Serial

end Pool

end WalletLoadTest.Python
