import WalletLoadTest.Python.Proc

/-!
# Python code over the effects

`Py` is code that may raise: the exception is the `error` of an `ExceptT`.  The
main thread of a script also mutates module globals (`stats`,
`created_wallets`), and a mutation made before an exception survives the
`except` that catches it; so `Script` keeps its state below the exceptions.
`sys.exit` raises `SystemExit`, which `except Exception` does not catch.

The library functions the scripts call (`random.choice`, `random.randint`,
`random.uniform`, `random.sample`, `time.time`, `requests`) are written here
over the effects, following CPython and `requests`.

`Script.exec` runs a script on one thread; the `exec_*` lemmas compute a run
statement by statement.
-/

namespace WalletLoadTest.Python

abbrev Py := ExceptT Exc Proc

inductive Raise where
  | exception (e : Exc)
  | systemExit (code : Nat)

abbrev Script (σ : Type) := ExceptT Raise (StateT σ Proc)

def Py.ofExcept (x : Except Exc α) : Py α := ExceptT.mk (pure x)

/-! ## The `random` module -/

/-- Internal `_randbelow(n)`: one call into the generator. -/
def randbelow (n : Nat) : Proc Nat := .draw fun d => .ret (d.bits % n)

/-- Function `random.choice(seq)` on the non-empty sequence `x :: xs`. -/
def choiceOf (x : α) (xs : List α) : Proc α := do
  let i ← randbelow (xs.length + 1)
  return (x :: xs).getD i x

theorem getD_mem_cons (x : α) (xs : List α) (i : Nat) : (x :: xs).getD i x ∈ x :: xs := by
  rw [List.getD_eq_getElem?_getD]
  cases h : (x :: xs)[i]? with
  | none => exact List.mem_cons_self x xs
  | some y => exact List.getElem?_mem h

theorem choiceOf_mem (x : α) (xs : List α) : (choiceOf x xs).Always (· ∈ x :: xs) :=
  fun _ => getD_mem_cons x xs _

/-- Function `random.choice(seq)`; an empty sequence raises before any draw. -/
def choice : List α → Py α
  | [] => throw .indexError
  | x :: xs => ExceptT.lift (choiceOf x xs)

/-- Function `random.randint(a, b)`, that is `a + _randbelow(b - a + 1)`. -/
def randint (a b : Nat) : Proc Nat := do
  let i ← randbelow (b + 1 - a)
  return a + i

theorem randint_mem {a b : Nat} (h : a ≤ b) : (randint a b).Always fun n => a ≤ n ∧ n ≤ b :=
  fun d => ⟨Nat.le_add_right _ _, by
    have := Nat.mod_lt d.bits (show 0 < b + 1 - a by omega)
    show a + d.bits % (b + 1 - a) ≤ b
    omega⟩

/-- Function `random.random()`. -/
def random : Proc ℚ := .draw fun d => .ret (max 0 (min 1 d.unit))

/-- Function `random.uniform(a, b)`, that is `a + (b - a) * random()`. -/
def uniform (a b : ℚ) : Proc ℚ := do
  let u ← random
  return a + (b - a) * u

theorem random_mem : random.Always fun u => 0 ≤ u ∧ u ≤ 1 :=
  fun _ => ⟨le_max_left _ _, max_le zero_le_one (min_le_left _ _)⟩

theorem uniform_mem {a b : ℚ} (h : a ≤ b) : (uniform a b).Always fun x => a ≤ x ∧ x ≤ b := by
  refine Proc.Always.bind random_mem fun u ⟨h0, h1⟩ => ⟨?_, ?_⟩
  · exact le_add_of_nonneg_right (mul_nonneg (sub_nonneg.2 h) h0)
  · have := mul_le_of_le_one_right (sub_nonneg.2 h) h1
    show a + (b - a) * u ≤ b
    linarith

/-- The selection loop of `random.sample`: pick `pool[j]`, move the last live item
into the vacancy.  CPython takes this path for populations of at most 21; for
larger ones it redraws positions already picked, which the model does not follow. -/
def samplePool : List α → Nat → Proc (List α)
  | _, 0 => pure []
  | [], _ + 1 => pure []
  | x :: xs, k + 1 => do
    let j ← randbelow (xs.length + 1)
    let live := (x :: xs).set j ((x :: xs).getLast (List.cons_ne_nil x xs))
    let rest ← samplePool live.dropLast k
    return (x :: xs).getD j x :: rest

/-- Function `random.sample(population, k)`. -/
def sample (xs : List α) (k : Nat) : Py (List α) :=
  if xs.length < k then throw .valueError else ExceptT.lift (samplePool xs k)

theorem sample_of_le {xs : List α} {k : Nat} (h : k ≤ xs.length) :
    sample xs k = ExceptT.lift (samplePool xs k) := by
  simp [sample, Nat.not_lt.2 h]

theorem perm_cons_dropLast_set {l : List α} (hne : l ≠ []) {j : Nat} (hj : j < l.length) :
    l.Perm (l[j] :: (l.set j (l.getLast hne)).dropLast) := by
  classical
  have hne' : l.set j (l.getLast hne) ≠ [] := by simpa using hne
  have hlast : (l.set j (l.getLast hne)).getLast hne' = l.getLast hne := by
    rw [List.getLast_eq_getElem, List.getElem_set]
    split
    · rfl
    · simp [List.getLast_eq_getElem]
  have hsplit := List.dropLast_concat_getLast hne'
  rw [hlast] at hsplit
  refine List.perm_iff_count.2 fun b => ?_
  have hc := congrArg (List.count b) hsplit
  rw [List.count_append, List.count_set _ _ _ _ hj, List.count_singleton] at hc
  have hle : (if l[j] == b then 1 else 0) ≤ l.count b := by
    split
    · exact List.count_pos_iff.2 (beq_iff_eq.1 ‹_› ▸ List.getElem_mem hj)
    · exact Nat.zero_le _
  rw [List.count_cons]
  omega

/-- `random.sample(population, k)` draws `min(k, len(population))` items without
replacement: a sub-multiset of the population. -/
theorem samplePool_subperm : ∀ (xs : List α) (k : Nat),
    (samplePool xs k).Always fun ys => ys.length = min k xs.length ∧ ys.Subperm xs
  | xs, 0 => by rw [samplePool]; exact ⟨by simp, List.nil_subperm⟩
  | [], _ + 1 => by rw [samplePool]; exact ⟨by simp, List.nil_subperm⟩
  | x :: xs, k + 1 => by
    rw [samplePool]
    refine Proc.Always.bind (P := fun j => j < (x :: xs).length)
      (fun _ => Nat.mod_lt _ (Nat.succ_pos _)) fun j hj => ?_
    dsimp only
    refine (samplePool_subperm _ k).bind fun rest ⟨hlen, hsub⟩ => ⟨?_, ?_⟩
    · simp [hlen]
      omega
    · rw [List.getD_eq_getElem _ _ hj]
      exact ((List.subperm_cons _).2 hsub).trans
        (perm_cons_dropLast_set (List.cons_ne_nil x xs) hj).symm.subperm

/-! ## The clock and `requests` -/

/-- Function `time.time()`. -/
def time : Proc ℚ := .time .ret

/-- The milliseconds `int(time.time() * 1000)` of a clock reading: the product is
rounded to a double, then truncated. -/
def millis (t : ℚ) : Int := pyInt (roundDouble (t * 1000))

-- `time.time()` returning the double nearest `1762675200.001`, just below it: the
-- exact product lies in millisecond `1762675200000`, the rounded one in the next.
set_option maxRecDepth 4000 in
example : millis (7393195642064994 / 4194304) = 1762675200001 ∧
    ⌊(7393195642064994 / 4194304 : ℚ) * 1000⌋ = 1762675200000 := by
  with_unfolding_all decide

/-- Function `requests.get`/`requests.post`: one call, and what it returns or raises. -/
def request (req : Request) : Py Response := ExceptT.mk (.send req .ret)

/-- Method `response.raise_for_status()` of `requests`. -/
def Response.raiseForStatus (r : Response) : Except Exc Unit :=
  if 400 ≤ r.status ∧ r.status < 600 then .error (.httpError r.status) else .ok ()

/-- Method `response.json()`. -/
def Response.json (r : Response) : Except Exc Json :=
  match r.body with
  | some v => .ok v
  | none => .error .jsonDecodeError

def answerBody : Reply → Option Json
  | .ok response => (response.raiseForStatus >>= fun _ => response.json).toOption
  | .error _ => none

/-! Sequential runs of `Py` code, statement by statement. -/

theorem Py.run_bind (x : Py α) (f : α → Py β) (env : Env) (w : World) :
    (x >>= f).run.run env w =
      match (x.run.run env w).1 with
      | .ok a => (f a).run.run env (x.run.run env w).2
      | .error e => (.error e, (x.run.run env w).2) := by
  rw [ExceptT.run_bind, Proc.run_bind]
  generalize x.run.run env w = p
  rcases p with ⟨_ | a, w'⟩ <;> rfl

theorem Py.run_lift (x : Proc α) (env : Env) (w : World) :
    (ExceptT.lift x : Py α).run.run env w = (.ok (x.run env w).1, (x.run env w).2) := by
  rw [ExceptT.run_lift]
  exact Proc.run_map env _ x w

theorem Py.run_request (req : Request) (env : Env) (w : World) :
    (request req).run.run env w = w.sendIn env req := rfl

def Py.Returns (Q : α → Prop) (x : Py α) : Prop := x.run.Always fun r => ∀ a, r = .ok a → Q a

theorem Py.returns_pure {Q : α → Prop} {a : α} (h : Q a) : Py.Returns Q (pure a) :=
  fun _ hb => Except.ok.inj hb ▸ h

theorem Py.Returns.bind {Q : β → Prop} {x : Py α} {f : α → Py β} (hf : ∀ a, (f a).Returns Q) :
    (x >>= f).Returns Q := by
  unfold Py.Returns
  rw [ExceptT.run_bind]
  refine Proc.Always.bind (Proc.always_true _) fun r _ => ?_
  rcases r with e | a
  · exact fun _ h => nomatch h
  · exact hf a

theorem Py.returns_lift {Q : α → Prop} {x : Proc α} (h : x.Always Q) :
    Py.Returns Q (ExceptT.lift x) := by
  unfold Py.Returns
  rw [ExceptT.run_lift, Proc.always_map]
  exact h.mono fun _ ha _ hb => Except.ok.inj hb ▸ ha

theorem Py.returns_choice (xs : List α) : (choice xs).Returns (· ∈ xs) := by
  cases xs with
  | nil => exact fun _ h => nomatch h
  | cons x xs => exact Py.returns_lift (choiceOf_mem x xs)

/-! ## Scripts -/

namespace Script

def liftPy (x : Py α) : Script σ α :=
  ExceptT.mk fun s => (fun r => (r.mapError .exception, s)) <$> x.run

/-- Evaluation of an expression that may raise, such as `wallet["id"]`. -/
def evalExpr (x : Except Exc α) : Script σ α := liftPy (Py.ofExcept x)

def liftProc (x : Proc α) : Script σ α := liftPy (ExceptT.lift x)

/-- Statement `try: body` with `except Exception as e: handler(e)`. -/
def tryExcept (body : Script σ α) (handler : Exc → Script σ α) : Script σ α :=
  ExceptT.mk do
    match ← body.run with
    | .ok a => pure (.ok a)
    | .error (.exception e) => (handler e).run
    | .error (.systemExit c) => pure (.error (.systemExit c))

/-- Function `sys.exit(code)`. -/
def sysExit (code : Nat) : Script σ α := throw (.systemExit code)

/-- How a script ends, as the process's exit status: an uncaught exception makes
Python print the traceback and exit with 1. -/
def exitStatus : Except Raise α → Nat
  | .ok _ => 0
  | .error (.systemExit c) => c
  | .error (.exception _) => 1

def exec (x : Script σ α) (env : Env) (s : σ) (w : World) : (Except Raise α × σ) × World :=
  (x.run.run s).run env w

theorem exec_get (env : Env) (s : σ) (w : World) :
    (get : Script σ σ).exec env s w = ((.ok s, s), w) := rfl

theorem exec_bind (x : Script σ α) (f : α → Script σ β) (env : Env) (s : σ) (w : World) :
    (x >>= f).exec env s w =
      match (x.exec env s w).1.1 with
      | .ok a => (f a).exec env (x.exec env s w).1.2 (x.exec env s w).2
      | .error r => ((.error r, (x.exec env s w).1.2), (x.exec env s w).2) := by
  simp only [exec, ExceptT.run_bind, StateT.run_bind, Proc.run_bind]
  generalize (x.run.run s).run env w = p
  rcases p with ⟨⟨_ | a, s'⟩, w'⟩ <;> rfl

theorem exec_liftPy (x : Py α) (env : Env) (s : σ) (w : World) :
    (liftPy x : Script σ α).exec env s w =
      (((x.run.run env w).1.mapError .exception, s), (x.run.run env w).2) := by
  simp only [exec, liftPy, ExceptT.run_mk, StateT.run]
  exact Proc.run_map env _ _ w

theorem exec_liftProc (x : Proc α) (env : Env) (s : σ) (w : World) :
    (liftProc x : Script σ α).exec env s w = ((.ok (x.run env w).1, s), (x.run env w).2) := by
  rw [liftProc, exec_liftPy, Py.run_lift]
  rfl

theorem exec_pure (a : α) (env : Env) (s : σ) (w : World) :
    (pure a : Script σ α).exec env s w = ((.ok a, s), w) := rfl

theorem exec_modify (f : σ → σ) (env : Env) (s : σ) (w : World) :
    (modify f : Script σ Unit).exec env s w = ((.ok (), f s), w) := rfl

theorem exec_tryExcept (body : Script σ α) (handler : Exc → Script σ α) (env : Env) (s : σ)
    (w : World) :
    (tryExcept body handler).exec env s w =
      match (body.exec env s w).1.1 with
      | .error (.exception e) => (handler e).exec env (body.exec env s w).1.2 (body.exec env s w).2
      | _ => body.exec env s w := by
  simp only [exec, tryExcept, ExceptT.run_mk, StateT.run_bind, Proc.run_bind]
  generalize (body.run.run s).run env w = p
  rcases p with ⟨⟨(_ | _) | a, s'⟩, w'⟩ <;> rfl

theorem exec_evalExpr (x : Except Exc α) (env : Env) (s : σ) (w : World) :
    (evalExpr x : Script σ α).exec env s w = ((x.mapError .exception, s), w) := rfl

section TryExcept

variable {body : Script σ α} {handler : Exc → Script σ β} {env : Env} {s s' : σ} {w w' : World}

theorem exec_tryExcept_bind_error {f : α → Script σ β} {e : Exc}
    (h : body.exec env s w = ((.error (.exception e), s'), w')) :
    (tryExcept (body >>= f) handler).exec env s w = (handler e).exec env s' w' := by
  rw [exec_tryExcept, exec_bind, h]

theorem exec_tryExcept_bind_ok {f : α → Script σ β} {a : α}
    (h : body.exec env s w = ((.ok a, s'), w')) :
    (tryExcept (body >>= f) handler).exec env s w = (tryExcept (f a) handler).exec env s' w' := by
  rw [exec_tryExcept, exec_tryExcept, exec_bind, h]

theorem exec_tryExcept_evalExpr_bind {x : Except Exc α} {f : α → Script σ β} :
    (tryExcept (evalExpr x >>= f) handler).exec env s w =
      match x with
      | .ok a => (tryExcept (f a) handler).exec env s w
      | .error e => (handler e).exec env s w := by
  rcases x with e | a
  · exact exec_tryExcept_bind_error rfl
  · exact exec_tryExcept_bind_ok rfl

end TryExcept

theorem exec_forM_of_each {f : α → Script σ Unit} {req : α → Request} {env : Env} :
    ∀ (xs : List α), (∀ a ∈ xs, ∀ s w, (f a).exec env s w = ((.ok (), s), (w.sendIn env (req a)).2)) →
      ∀ (s : σ) (w : World), ((xs.forM f).exec env s w).1 = (.ok (), s) ∧
        ((xs.forM f).exec env s w).2.requests = w.requests ++ xs.map req
  | [], _, _, _ => ⟨rfl, (List.append_nil _).symm⟩
  | a :: xs, h, s, w => by
    rw [List.forM_cons', exec_bind, h a (List.mem_cons_self a xs)]
    obtain ⟨h₁, h₂⟩ := exec_forM_of_each xs (fun b hb => h b (List.mem_cons_of_mem a hb)) s
      (w.sendIn env (req a)).2
    exact ⟨h₁, by rw [h₂, World.requests_sendIn, List.map_cons, List.append_assoc]; rfl⟩

end Script

end WalletLoadTest.Python
