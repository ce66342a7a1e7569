import WalletLoadTest.Python.Spec

/-!
# The requests a script can send

`Proc.Sends R x` says that every request `x` can send satisfies `R`, whatever
the world answers.  Here it is lifted to `Py` code and to scripts, with one rule
per statement form; a run then extends the world's requests only with requests
satisfying `R` (`Script.Sends.exec`).  A rule for a call whose value the
following code reads takes what the call returns (`Py.Returns`, `Spec`).
-/

namespace WalletLoadTest.Python

theorem randint_sends (R : Request → Prop) (a b : Nat) : (randint a b).Sends R := fun _ => trivial

theorem choiceOf_sends (R : Request → Prop) (x : α) (xs : List α) : (choiceOf x xs).Sends R :=
  fun _ => trivial

theorem time_sends (R : Request → Prop) : time.Sends R := fun _ => trivial

def Py.Sends (R : Request → Prop) (x : Py α) : Prop := x.run.Sends R

section PySends

variable {R : Request → Prop}

theorem Py.Sends.bind {Q : α → Prop} {x : Py α} {f : α → Py β} (hx : x.Sends R) (hq : x.Returns Q)
    (hf : ∀ a, Q a → (f a).Sends R) : Py.Sends R (x >>= f) := by
  unfold Py.Sends
  rw [ExceptT.run_bind]
  refine Proc.Sends.bind hx hq fun r hr => ?_
  rcases r with e | a
  · exact trivial
  · exact hf a (hr a rfl)

theorem Py.Sends.bind' {x : Py α} {f : α → Py β} (hx : x.Sends R) (hf : ∀ a, (f a).Sends R) :
    Py.Sends R (x >>= f) :=
  hx.bind (Q := fun _ => True) (Proc.always_of_forall (fun _ _ _ => trivial) _) fun a _ => hf a

theorem Py.sends_pure (a : α) : Py.Sends R (pure a) := trivial

theorem Py.sends_ofExcept (x : Except Exc α) : (Py.ofExcept x).Sends R := trivial

theorem Py.sends_lift {x : Proc α} (h : x.Sends R) : Py.Sends R (ExceptT.lift x) := by
  unfold Py.Sends
  rw [ExceptT.run_lift]
  exact h.map

theorem Py.sends_request {req : Request} (h : R req) : (request req).Sends R :=
  ⟨h, fun _ => trivial⟩

theorem Py.sends_choice (xs : List α) : (choice xs).Sends R := by
  cases xs with
  | nil => exact trivial
  | cons x xs => exact Py.sends_lift fun _ => trivial

end PySends

theorem samplePool_sends (R : Request → Prop) : ∀ (xs : List α) (k : Nat), (samplePool xs k).Sends R
  | _, 0 => by rw [samplePool]; exact trivial
  | [], _ + 1 => by rw [samplePool]; exact trivial
  | _ :: _, k + 1 => fun _ => (samplePool_sends R _ k).bind' fun _ => trivial

theorem sample_sends (R : Request → Prop) (xs : List α) (k : Nat) : (sample xs k).Sends R := by
  unfold sample
  split
  · exact trivial
  · exact Py.sends_lift (samplePool_sends _ _ _)

namespace Script

def Sends (R : Request → Prop) (x : Script σ α) : Prop := ∀ s, (x.run.run s).Sends R

section Sends

variable {R : Request → Prop}

theorem sends_pure (a : α) : Sends R (pure a : Script σ α) := fun _ => trivial

theorem sends_throw (r : Raise) : Sends R (throw r : Script σ α) := fun _ => trivial

theorem sends_get : Sends R (get : Script σ σ) := fun _ => trivial

theorem sends_modify (f : σ → σ) : Sends R (modify f : Script σ Unit) := fun _ => trivial

theorem Sends.bind {x : Script σ α} {f : α → Script σ β} (hx : Sends R x)
    (hf : ∀ a, Sends R (f a)) : Sends R (x >>= f) := by
  intro s
  simp only [ExceptT.run_bind, StateT.run_bind]
  refine (hx s).bind' fun p => ?_
  rcases p with ⟨_ | a, s'⟩
  · exact trivial
  · exact hf a s'

theorem sends_liftPy {x : Py α} (h : x.Sends R) : Sends R (liftPy x : Script σ α) :=
  fun _ => Proc.Sends.map h

theorem sends_liftProc {x : Proc α} (h : x.Sends R) : Sends R (liftProc x : Script σ α) :=
  sends_liftPy (Py.sends_lift h)

theorem Sends.bind_of_spec {Q : α → Prop} {x : Script σ α} {f : α → Script σ β} (hx : Sends R x)
    (hq : Spec (fun _ => True) x (fun a _ => Q a) (fun _ _ => True))
    (hf : ∀ a, Q a → Sends R (f a)) : Sends R (x >>= f) := by
  intro s
  simp only [ExceptT.run_bind, StateT.run_bind]
  refine (hx s).bind (hq s trivial) fun p hp => ?_
  rcases p with ⟨_ | a, s'⟩
  · exact trivial
  · exact hf a hp s'

theorem Sends.bind_liftPy {Q : α → Prop} {x : Py α} {f : α → Script σ β} (hx : x.Sends R)
    (hq : x.Returns Q) (hf : ∀ a, Q a → Sends R (f a)) : Sends R (liftPy x >>= f) :=
  (sends_liftPy hx).bind_of_spec (Spec.liftPy (hq.mono fun r hr _ _ => by
    rcases r with e | a
    · exact trivial
    · exact hr a rfl)) hf

theorem Sends.bind_liftProc {Q : α → Prop} {x : Proc α} {f : α → Script σ β} (hx : x.Sends R)
    (hq : x.Always Q) (hf : ∀ a, Q a → Sends R (f a)) : Sends R (liftProc x >>= f) :=
  Sends.bind_liftPy (Py.sends_lift hx) (Py.returns_lift hq) hf

theorem sends_evalExpr (x : Except Exc α) : Sends R (evalExpr x : Script σ α) :=
  sends_liftPy (Py.sends_ofExcept x)

theorem Sends.tryExcept {body : Script σ α} {handler : Exc → Script σ α} (hb : Sends R body)
    (hh : ∀ e, Sends R (handler e)) : Sends R (tryExcept body handler) := by
  intro s
  simp only [Script.tryExcept, ExceptT.run_mk, StateT.run_bind]
  refine (hb s).bind' fun p => ?_
  rcases p with ⟨(_ | _) | a, s'⟩
  · exact hh _ s'
  · exact trivial
  · exact trivial

theorem Sends.map {f : α → β} {x : Script σ α} (h : Sends R x) : Sends R (f <$> x) := by
  rw [← bind_pure_comp]
  exact h.bind fun _ => sends_pure _

theorem Sends.discard {x : Script σ α} (h : Sends R x) : Sends R (discard x) := by
  rw [Functor.discard, LawfulFunctor.map_const]
  exact h.map

theorem Sends.forM_mem {f : α → Script σ Unit} : ∀ {xs : List α}, (∀ x ∈ xs, Sends R (f x)) →
    Sends R (xs.forM f)
  | [], _ => sends_pure _
  | x :: _, h => (h x (List.mem_cons_self _ _)).bind fun _ =>
    Sends.forM_mem fun y hy => h y (List.mem_cons_of_mem _ hy)

theorem Sends.forM {f : α → Script σ Unit} (h : ∀ x, Sends R (f x)) (xs : List α) :
    Sends R (xs.forM f) :=
  Sends.forM_mem fun x _ => h x

theorem Sends.exec {x : Script σ α} (h : Sends R x) (env : Env) (s : σ) (w : World) :
    World.SentSince R w (x.exec env s w).2 :=
  (h s).run env w

end Sends

end Script

end WalletLoadTest.Python
