import WalletLoadTest.Python.Dialog

/-!
# Counters that count exchanges

A script's counters are often meant to count what the service did: `count g k`
reads counter `k` of the globals `g`, and `weight k e` says whether exchange `e`
should move it.  `Script.Tracks count weight x` says that however a run of `x`
ends, each counter has moved by exactly the exchanges of the run it counts.  The
rules below follow the statements of a script; a statement that sends no counted
request and moves no counter is tracked, and so is a sequence of tracked
statements.
-/

namespace WalletLoadTest.Python

variable {σ κ : Type} (count : σ → κ → Nat) (weight : κ → Exchange → Bool)

/-- From `g₀` and `w₀` to `g` and `w`: the exchanges grew by `new`, and each counter
by the exchanges of `new` it counts. -/
def Tallied (g₀ : σ) (w₀ : World) (g : σ) (w : World) : Prop :=
  ∃ new, w.exchanges = w₀.exchanges ++ new ∧ ∀ k, count g k = count g₀ k + new.countP (weight k)

/-- However a run of `x` ends, its counters have moved by the exchanges they count. -/
def Script.Tracks (x : Script σ α) : Prop :=
  ∀ env g w, Tallied count weight g w (x.exec env g w).1.2 (x.exec env g w).2

variable {count weight}

section Tallied

variable {g₀ g₁ g₂ : σ} {w₀ w₁ w₂ : World}

theorem Tallied.trans (h : Tallied count weight g₀ w₀ g₁ w₁) (h' : Tallied count weight g₁ w₁ g₂ w₂) :
    Tallied count weight g₀ w₀ g₂ w₂ := by
  obtain ⟨new, hw, hk⟩ := h
  obtain ⟨new', hw', hk'⟩ := h'
  exact ⟨new ++ new', by rw [hw', hw, List.append_assoc], fun k => by
    rw [hk', hk, List.countP_append, Nat.add_assoc]⟩

theorem Tallied.of_uncounted {new : List Exchange} (hw : w₁.exchanges = w₀.exchanges ++ new)
    (hnew : ∀ e ∈ new, ∀ k, weight k e = false) (hk : ∀ k, count g₁ k = count g₀ k) :
    Tallied count weight g₀ w₀ g₁ w₁ :=
  ⟨new, hw, fun k => by rw [hk, List.countP_eq_zero.2 fun e he => by simp [hnew e he k], Nat.add_zero]⟩

theorem Tallied.of_silent (hw : w₁.exchanges = w₀.exchanges) (hk : ∀ k, count g₁ k = count g₀ k) :
    Tallied count weight g₀ w₀ g₁ w₁ :=
  ⟨[], by rw [hw, List.append_nil], hk⟩

end Tallied

namespace Script

theorem tracks_pure (a : α) : Tracks count weight (pure a : Script σ α) :=
  fun _ _ _ => .of_silent rfl fun _ => rfl

theorem tracks_throw (r : Raise) : Tracks count weight (throw r : Script σ α) :=
  fun _ _ _ => .of_silent rfl fun _ => rfl

theorem Tracks.bind {x : Script σ α} {f : α → Script σ β} (hx : Tracks count weight x)
    (hf : ∀ a, Tracks count weight (f a)) : Tracks count weight (x >>= f) := by
  intro env g w
  have h := hx env g w
  rw [exec_bind]
  generalize x.exec env g w = p at h
  obtain ⟨⟨_ | a, g'⟩, w'⟩ := p
  · exact h
  · exact h.trans (hf a env g' w')

theorem Tracks.bind_get {f : σ → Script σ β} (hf : ∀ g, Tracks count weight (f g)) :
    Tracks count weight (get >>= f) := fun env g w => by
  rw [exec_bind, exec_get]
  exact hf g env g w

theorem tracks_liftPy {R : Request → Prop} {x : Py α} (hs : x.Sends R)
    (hR : ∀ req, R req → ∀ k r, weight k (req, r) = false) :
    Tracks count weight (liftPy x : Script σ α) := fun env g w => by
  rw [exec_liftPy]
  obtain ⟨new, hw, hnew⟩ := Proc.Sends.exchanges hs env w
  exact .of_uncounted hw (fun e he k => hR e.1 (hnew e he) k e.2) fun _ => rfl

theorem tracks_liftPy_silent {x : Py α} (hs : Py.Sends (fun _ => False) x) :
    Tracks count weight (liftPy x : Script σ α) :=
  tracks_liftPy hs fun _ h => h.elim

theorem tracks_liftProc {x : Proc α} (hs : x.Sends fun _ => False) :
    Tracks count weight (liftProc x : Script σ α) :=
  tracks_liftPy_silent (Py.sends_lift hs)

theorem tracks_evalExpr (x : Except Exc α) : Tracks count weight (evalExpr x : Script σ α) :=
  tracks_liftPy_silent (Py.sends_ofExcept x)

theorem tracks_modify {f : σ → σ} (hf : ∀ g k, count (f g) k = count g k) :
    Tracks count weight (modify f) :=
  fun _ g _ => .of_silent rfl (hf g)

theorem Tracks.map {f : α → β} {x : Script σ α} (h : Tracks count weight x) :
    Tracks count weight (f <$> x) := by
  rw [← bind_pure_comp]
  exact h.bind fun _ => tracks_pure _

theorem Tracks.discard {x : Script σ α} (h : Tracks count weight x) :
    Tracks count weight (discard x) := by
  rw [Functor.discard, LawfulFunctor.map_const]
  exact h.map

theorem Tracks.tryExcept {body : Script σ α} {handler : Exc → Script σ α}
    (hb : Tracks count weight body) (hh : ∀ e, Tracks count weight (handler e)) :
    Tracks count weight (tryExcept body handler) := by
  intro env g w
  have h := hb env g w
  rw [exec_tryExcept]
  generalize body.exec env g w = p at h
  obtain ⟨⟨(e | _) | _, g'⟩, w'⟩ := p
  · exact h.trans (hh e env g' w')
  · exact h
  · exact h

theorem Tracks.forM {f : α → Script σ Unit} (h : ∀ a, Tracks count weight (f a)) :
    ∀ xs : List α, Tracks count weight (xs.forM f)
  | [] => tracks_pure _
  | a :: xs => (h a).bind fun _ => Tracks.forM h xs

theorem tracks_of_spec {x : Script σ α} (hs : Sends (fun _ => False) x)
    (h : ∀ g₀, Spec (fun g => ∀ k, count g k = count g₀ k) x (fun _ g => ∀ k, count g k = count g₀ k)
      fun _ g => ∀ k, count g k = count g₀ k) : Tracks count weight x := fun env g w => by
  have hend : Ends (fun _ g' => ∀ k, count g' k = count g k) (fun _ g' => ∀ k, count g' k = count g k)
      (x.exec env g w).1 := (h g g fun _ => rfl).run env w
  refine .of_silent (Proc.exchanges_run_of_silent (hs g) env w) ?_
  generalize x.exec env g w = p at hend ⊢
  obtain ⟨⟨_ | _, g'⟩, w'⟩ := p <;> exact hend

end Script

end WalletLoadTest.Python
