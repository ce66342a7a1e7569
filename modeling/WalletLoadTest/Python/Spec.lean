import WalletLoadTest.Python.Script

/-!
# What every run of a script satisfies

`Script.Spec P x Q E` is a Hoare triple with an exceptional postcondition: from
every state satisfying `P`, in every environment (every draw, clock reading and
answer of the service), `x` ends normally in `Q` or raises in `E`.  The rules
below follow the statements of the scripts: sequencing, `try ... except`,
`if`, loops, and the library calls; callers cite them and never unfold a run.
-/

namespace WalletLoadTest.Python

namespace Script

def Ends (Q : α → σ → Prop) (E : Raise → σ → Prop) (p : Except Raise α × σ) : Prop :=
  match p.1 with
  | .ok a => Q a p.2
  | .error r => E r p.2

/-- From any state satisfying `P`, in every environment, `x` ends in `Q` or `E`. -/
def Spec (P : σ → Prop) (x : Script σ α) (Q : α → σ → Prop) (E : Raise → σ → Prop) : Prop :=
  ∀ s, P s → (x.run.run s).Always (Ends Q E)

variable {P : σ → Prop} {Q : α → σ → Prop} {E : Raise → σ → Prop}

theorem Spec.pure {a : α} (h : ∀ s, P s → Q a s) : Spec P (pure a) Q E :=
  fun s hs => h s hs

theorem Spec.throw {r : Raise} (h : ∀ s, P s → E r s) : Spec P (throw r : Script σ α) Q E :=
  fun s hs => h s hs

theorem Spec.bind {R : α → σ → Prop} {x : Script σ α} {f : α → Script σ β}
    {Q : β → σ → Prop} (hx : Spec P x R E) (hf : ∀ a, Spec (R a) (f a) Q E) :
    Spec P (x >>= f) Q E := by
  intro s hs
  simp only [ExceptT.run_bind, StateT.run_bind]
  refine (hx s hs).bind fun p hp => ?_
  rcases p with ⟨_ | a, s'⟩
  · exact hp
  · exact hf a s' hp

theorem Spec.mono {P' : σ → Prop} {Q' : α → σ → Prop} {E' : Raise → σ → Prop}
    {x : Script σ α} (h : Spec P x Q E) (hP : ∀ s, P' s → P s)
    (hQ : ∀ a s, Q a s → Q' a s) (hE : ∀ r s, E r s → E' r s) : Spec P' x Q' E' := by
  intro s hs
  refine (h s (hP s hs)).mono fun p hp => ?_
  rcases p with ⟨_ | a, s'⟩
  · exact hE _ _ hp
  · exact hQ _ _ hp

theorem Spec.ends {x : Script σ α} (h : Spec P x Q E) {s s' : σ} (hs : P s) {env : Env}
    {w w' : World} {r : Except Raise α} (hx : x.exec env s w = ((r, s'), w')) : Ends Q E (r, s') := by
  have hend : Ends Q E (x.exec env s w).1 := (h s hs).run env w
  rwa [hx] at hend

theorem Spec.getState : Spec P (get : Script σ σ) (fun a s => P s ∧ a = s) E :=
  fun _ hs => ⟨hs, rfl⟩

theorem Spec.modifyState {Q : Unit → σ → Prop} {f : σ → σ} (h : ∀ s, P s → Q () (f s)) :
    Spec P (modify f : Script σ Unit) Q E :=
  fun s hs => h s hs

theorem Spec.liftPy {x : Py α}
    (h : x.run.Always fun r => ∀ s, P s → Ends Q E (r.mapError .exception, s)) :
    Spec P (Script.liftPy x) Q E :=
  fun s hs => h.bind fun _ hr => hr s hs

theorem Spec.liftProc {x : Proc α} (h : ∀ a s, P s → Q a s) : Spec P (Script.liftProc x) Q E :=
  fun s hs => by
    simp only [Script.liftProc, Script.liftPy, ExceptT.run_mk, ExceptT.run_lift, StateT.run,
      Proc.always_map]
    exact Proc.always_of_forall (fun a => h a s hs) _

theorem Spec.liftProc_always {x : Proc α} {R : α → Prop} (hx : x.Always R) :
    Spec P (Script.liftProc x) (fun a s => P s ∧ R a) E := fun s hs => by
  simp only [Script.liftProc, Script.liftPy, ExceptT.run_mk, ExceptT.run_lift, StateT.run,
    Proc.always_map]
  exact hx.mono fun _ ha => ⟨hs, ha⟩

theorem Spec.liftPy_frame {x : Py α} :
    Spec P (Script.liftPy x) (fun _ => P) (fun r s => P s ∧ ∃ e, r = .exception e) :=
  Spec.liftPy (Proc.always_of_forall (fun r s hs => by
    rcases r with e | a
    · exact ⟨hs, e, rfl⟩
    · exact hs) _)

theorem Spec.evalExpr {x : Except Exc α} (hok : ∀ a, x = .ok a → ∀ s, P s → Q a s)
    (herr : ∀ e, x = .error e → ∀ s, P s → E (.exception e) s) :
    Spec P (Script.evalExpr x) Q E :=
  Spec.liftPy (by
    rcases hx : x with e | a
    · exact fun s hs => herr e hx s hs
    · exact fun s hs => hok a hx s hs)

theorem Spec.evalExpr_frame {x : Except Exc α} :
    Spec P (Script.evalExpr x) (fun _ => P) (fun r s => P s ∧ ∃ e, r = .exception e) :=
  Spec.evalExpr (fun _ _ _ hs => hs) fun e _ _ hs => ⟨hs, e, rfl⟩

theorem Spec.tryExcept {B : Raise → σ → Prop} {body : Script σ α} {handler : Exc → Script σ α}
    (hb : Spec P body Q B) (hh : ∀ e, Spec (B (.exception e)) (handler e) Q E)
    (hexit : ∀ c s, B (.systemExit c) s → E (.systemExit c) s) :
    Spec P (tryExcept body handler) Q E := by
  intro s hs
  simp only [Script.tryExcept, ExceptT.run_mk, StateT.run_bind]
  refine (hb s hs).bind fun p hp => ?_
  rcases p with ⟨(_ | _) | a, s'⟩
  · exact hh _ s' hp
  · exact hexit _ s' hp
  · exact hp

theorem Spec.assume {c : Prop} {x : Script σ α} (h : c → Spec P x Q E) :
    Spec (fun s => P s ∧ c) x Q E :=
  fun s ⟨hs, hc⟩ => h hc s hs

theorem Spec.map {f : α → β} {x : Script σ α} {Q : β → σ → Prop}
    (h : Spec P x (fun a => Q (f a)) E) : Spec P (f <$> x) Q E := by
  rw [← bind_pure_comp]
  exact Spec.bind h fun _ => Spec.pure fun _ hs => hs

theorem Spec.discard {x : Script σ α} {Q : PUnit → σ → Prop} (h : Spec P x (fun _ => Q ⟨⟩) E) :
    Spec P (discard x) Q E := by
  rw [Functor.discard, LawfulFunctor.map_const]
  exact Spec.map h

/-! Rules for code run from one known state `g`, statement by statement. -/

theorem Spec.bind_get {g : σ} {f : σ → Script σ β} {Q : β → σ → Prop}
    (h : Spec (· = g) (f g) Q E) : Spec (· = g) (get >>= f) Q E :=
  Spec.bind Spec.getState fun _ => fun s ⟨hs, ha⟩ => by subst hs ha; exact h _ rfl

theorem Spec.bind_modify {g : σ} {f : σ → σ} {k : Unit → Script σ β} {Q : β → σ → Prop}
    (h : Spec (· = f g) (k ()) Q E) : Spec (· = g) (modify f >>= k) Q E :=
  Spec.bind (Spec.modifyState (Q := fun _ s => s = f g) fun _ hs => hs ▸ rfl) fun _ => h

theorem Spec.bind_liftProc {g : σ} {x : Proc α} {f : α → Script σ β} {Q : β → σ → Prop}
    (h : ∀ a, Spec (· = g) (f a) Q E) : Spec (· = g) (Script.liftProc x >>= f) Q E :=
  Spec.bind (Spec.liftProc fun _ _ hs => hs) h

theorem Spec.bind_liftPy {g : σ} {x : Py α} {f : α → Script σ β} {Q : β → σ → Prop}
    (hok : ∀ a, Spec (· = g) (f a) Q E) (herr : ∀ e, E (.exception e) g) :
    Spec (· = g) (Script.liftPy x >>= f) Q E :=
  Spec.bind (Spec.liftPy_frame.mono (fun _ h => h) (fun _ _ h => h)
    fun _ _ ⟨hs, e, he⟩ => hs ▸ he ▸ herr e) hok

theorem Spec.bind_evalExpr {g : σ} {x : Except Exc α} {f : α → Script σ β} {Q : β → σ → Prop}
    (hok : ∀ a, x = .ok a → Spec (· = g) (f a) Q E) (herr : ∀ e, x = .error e → E (.exception e) g) :
    Spec (· = g) (Script.evalExpr x >>= f) Q E :=
  Spec.bind (Spec.evalExpr (Q := fun a s => s = g ∧ x = .ok a) (fun _ ha _ hs => ⟨hs, ha⟩)
    fun e he _ hs => hs ▸ herr e he) fun a s ⟨hs, ha⟩ => hok a ha s hs

theorem Spec.bind_choice {g : σ} {xs : List α} {f : α → Script σ β} {Q : β → σ → Prop}
    (hok : ∀ a ∈ xs, Spec (· = g) (f a) Q E) (herr : xs = [] → E (.exception .indexError) g) :
    Spec (· = g) (Script.liftPy (choice xs) >>= f) Q E := by
  rcases xs with _ | ⟨x, xs⟩
  · exact Spec.bind (Spec.liftPy (Q := fun (_ : α) _ => False) fun s hs => hs ▸ herr rfl)
      fun _ _ h => h.elim
  · refine Spec.bind (Spec.liftPy (Q := fun a s => s = g ∧ a ∈ x :: xs) ?_)
      fun a s ⟨hs, ha⟩ => hok a ha s hs
    simp only [choice, ExceptT.run_lift, Proc.always_map]
    exact (choiceOf_mem x xs).mono fun a ha s hs => ⟨hs, ha⟩

theorem Spec.forM {I : Nat → σ → Prop} {f : α → Script σ Unit}
    (h : ∀ x k, Spec (I k) (f x) (fun _ => I (k + 1)) E) :
    ∀ (xs : List α) (k : Nat), Spec (I k) (xs.forM f) (fun _ => I (k + xs.length)) E
  | [], _ => Spec.pure fun _ hs => hs
  | x :: xs, k => by
    refine Spec.bind (h x k) fun _ => ?_
    simpa [Nat.add_assoc, Nat.add_comm 1] using Spec.forM h xs (k + 1)

end Script

end WalletLoadTest.Python
