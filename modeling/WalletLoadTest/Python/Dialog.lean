import WalletLoadTest.Python.Trace

/-!
# Requests that depend on the answer before them

Some requests of a script are decided by what the service answered just before:
a debit goes out only after the wallet's balance has been read.  `Guarded C Q l x`
says that every request `x` can send satisfies `C` of the exchange just before
it (the request and its answer; `l` before the first one), and that every way `x`
can finish satisfies `Q` of its value and of the last exchange.  The rules lift it
from effect trees to `Py` code and to scripts; a run then extends the world's
exchanges with exchanges whose requests each satisfy `C` of the one before
(`Proc.Guarded.run`, `Script.Guarded.exec`).
-/

namespace WalletLoadTest.Python

abbrev Exchange := Request × Reply

def Event.exchange? : Event → Option Exchange
  | .sent req reply => some (req, reply)
  | _ => none

namespace World

def exchanges (w : World) : List Exchange := w.log.filterMap Event.exchange?

@[simp] theorem exchanges_drawIn (env : Env) (w : World) :
    (w.drawIn env).2.exchanges = w.exchanges := by
  simp [exchanges, drawIn, Event.exchange?]

@[simp] theorem exchanges_readIn (env : Env) (w : World) :
    (w.readIn env).2.exchanges = w.exchanges := by
  simp [exchanges, readIn, Event.exchange?]

@[simp] theorem exchanges_sendIn (env : Env) (req : Request) (w : World) :
    (w.sendIn env req).2.exchanges = w.exchanges ++ [(req, (w.sendIn env req).1)] := by
  simp [exchanges, sendIn, Event.exchange?]

theorem requests_eq_map_exchanges (w : World) : w.requests = w.exchanges.map Prod.fst := by
  simp only [requests, exchanges, List.map_filterMap]
  congr 1
  funext e
  cases e <;> rfl

end World

/-- Every request of `es` satisfies `C` of the exchange before it; `last` is the
one before the first. -/
def Follows (C : Option Exchange → Request → Prop) : Option Exchange → List Exchange → Prop
  | _, [] => True
  | last, (req, reply) :: es => C last req ∧ Follows C (some (req, reply)) es

theorem follows_append {C : Option Exchange → Request → Prop} :
    ∀ {last : Option Exchange} {es es' : List Exchange}, Follows C last es →
      Follows C (es.getLast?.or last) es' → Follows C last (es ++ es')
  | _, [], _, _, h' => h'
  | _, [_], _, ⟨h, _⟩, h' => ⟨h, h'⟩
  | _, _ :: _ :: _, _, ⟨h, hs⟩, h' => ⟨h, follows_append hs h'⟩

namespace World

def GuardedSince (C : Option Exchange → Request → Prop) (w w' : World) : Prop :=
  ∃ new, w'.exchanges = w.exchanges ++ new ∧ Follows C w.exchanges.getLast? new

variable {C : Option Exchange → Request → Prop} {w w' w'' : World}

theorem GuardedSince.refl (C : Option Exchange → Request → Prop) (w : World) : GuardedSince C w w :=
  ⟨[], (List.append_nil _).symm, trivial⟩

theorem GuardedSince.trans (h : GuardedSince C w w') (h' : GuardedSince C w' w'') :
    GuardedSince C w w'' := by
  obtain ⟨new, hw, hnew⟩ := h
  obtain ⟨new', hw', hnew'⟩ := h'
  refine ⟨new ++ new', by rw [hw', hw, List.append_assoc], follows_append hnew ?_⟩
  rwa [hw, List.getLast?_append] at hnew'

theorem GuardedSince.of_exchanges_eq (h : w'.exchanges = w.exchanges) : GuardedSince C w w' :=
  ⟨[], by rw [h, List.append_nil], trivial⟩

end World

namespace Proc

def Guarded (C : Option Exchange → Request → Prop) (Q : α → Option Exchange → Prop) :
    Option Exchange → Proc α → Prop
  | last, .ret a => Q a last
  | last, .draw k => ∀ d, (k d).Guarded C Q last
  | last, .time k => ∀ t, (k t).Guarded C Q last
  | last, .send req k => C last req ∧ ∀ r, (k r).Guarded C Q (some (req, r))

variable {C : Option Exchange → Request → Prop} {last : Option Exchange}

theorem Guarded.mono {Q Q' : α → Option Exchange → Prop} {x : Proc α} (h : x.Guarded C Q last)
    (hQ : ∀ a l, Q a l → Q' a l) : x.Guarded C Q' last := by
  induction x generalizing last with
  | ret a => exact hQ a last h
  | draw k ih => exact fun d => ih d (h d)
  | time k ih => exact fun t => ih t (h t)
  | send req k ih => exact ⟨h.1, fun r => ih r (h.2 r)⟩

theorem Guarded.bind {R : α → Option Exchange → Prop} {Q : β → Option Exchange → Prop}
    {x : Proc α} {f : α → Proc β} (hx : x.Guarded C R last)
    (hf : ∀ a l, R a l → (f a).Guarded C Q l) : (x >>= f).Guarded C Q last := by
  induction x generalizing last with
  | ret a => exact hf a last hx
  | draw k ih => exact fun d => ih d (hx d)
  | time k ih => exact fun t => ih t (hx t)
  | send req k ih => exact ⟨hx.1, fun r => ih r (hx.2 r)⟩

theorem Guarded.and {Q Q' : α → Option Exchange → Prop} {x : Proc α} (h : x.Guarded C Q last)
    (h' : x.Guarded C Q' last) : x.Guarded C (fun a l => Q a l ∧ Q' a l) last := by
  induction x generalizing last with
  | ret a => exact ⟨h, h'⟩
  | draw k ih => exact fun d => ih d (h d) (h' d)
  | time k ih => exact fun t => ih t (h t) (h' t)
  | send req k ih => exact ⟨h.1, fun r => ih r (h.2 r) (h'.2 r)⟩

theorem Guarded.sends {R : Request → Prop} {Q : α → Option Exchange → Prop} {x : Proc α}
    (h : x.Guarded C Q last) (hs : x.Sends R) (hlast : ∀ e ∈ last, R e.1) :
    x.Guarded C (fun a l => Q a l ∧ ∀ e ∈ l, R e.1) last := by
  induction x generalizing last with
  | ret a => exact ⟨h, hlast⟩
  | draw k ih => exact fun d => ih d (h d) (hs d) hlast
  | time k ih => exact fun t => ih t (h t) (hs t) hlast
  | send req k ih => exact ⟨h.1, fun r => ih r (h.2 r) (hs.2 r) fun _ he => by cases he; exact hs.1⟩

theorem Guarded.map {f : α → β} {Q : β → Option Exchange → Prop} {x : Proc α}
    (h : x.Guarded C (fun a => Q (f a)) last) : (f <$> x).Guarded C Q last :=
  h.bind fun _ _ hq => hq

theorem guarded_of_silent {P : α → Prop} {x : Proc α} (hs : x.Sends fun _ => False)
    (hP : x.Always P) : x.Guarded C (fun a l => P a ∧ l = last) last := by
  induction x with
  | ret a => exact ⟨hP, rfl⟩
  | draw k ih => exact fun d => ih d (hs d) (hP d)
  | time k ih => exact fun t => ih t (hs t) (hP t)
  | send req k ih => exact hs.1.elim

theorem Guarded.bind_silent {Q : β → Option Exchange → Prop} {x : Proc α} {f : α → Proc β}
    (hs : x.Sends fun _ => False) (hf : ∀ a, (f a).Guarded C Q last) : (x >>= f).Guarded C Q last :=
  (guarded_of_silent hs (always_true x)).bind fun a _ ⟨_, hl⟩ => hl ▸ hf a

theorem Guarded.run {Q : α → Option Exchange → Prop} {x : Proc α} (env : Env) :
    ∀ {w : World}, x.Guarded C Q w.exchanges.getLast? →
      World.GuardedSince C w (x.run env w).2 ∧ Q (x.run env w).1 (x.run env w).2.exchanges.getLast? := by
  induction x with
  | ret a => exact fun {w} h => ⟨.refl C w, h⟩
  | draw k ih =>
    intro w h
    have := ih (w.drawIn env).1 (w := (w.drawIn env).2) (by simpa using h _)
    exact ⟨(World.GuardedSince.of_exchanges_eq (World.exchanges_drawIn env w)).trans this.1, this.2⟩
  | time k ih =>
    intro w h
    have := ih (w.readIn env).1 (w := (w.readIn env).2) (by simpa using h _)
    exact ⟨(World.GuardedSince.of_exchanges_eq (World.exchanges_readIn env w)).trans this.1, this.2⟩
  | send req k ih =>
    intro w h
    have := ih (w.sendIn env req).1 (w := (w.sendIn env req).2) (by simpa using h.2 _)
    exact ⟨World.GuardedSince.trans ⟨_, World.exchanges_sendIn env req w, h.1, trivial⟩ this.1, this.2⟩

theorem run_answers (env : Env) (x : Proc α) (w : World) :
    ∀ e ∈ (x.run env w).2.exchanges, e ∈ w.exchanges ∨ ∃ n, e.2 = env.reply n e.1 := by
  induction x generalizing w with
  | ret a => exact fun e he => .inl he
  | draw k ih => simpa using ih _ (w.drawIn env).2
  | time k ih => simpa using ih _ (w.readIn env).2
  | send req k ih =>
    intro e he
    rcases ih _ (w.sendIn env req).2 e he with h | h
    · rw [World.exchanges_sendIn, List.mem_append, List.mem_singleton] at h
      rcases h with h | rfl
      · exact .inl h
      · exact .inr ⟨w.sent, rfl⟩
    · exact .inr h

theorem Guarded.step {Q : α → Option Exchange → Prop} {x x' : Proc α} {env : Env} {w w' : World}
    (h : x.Guarded C Q last) (hs : x.step env w = some (x', w')) :
    (x'.Guarded C Q last ∧ w'.exchanges = w.exchanges) ∨
      ∃ e, C last e.1 ∧ x'.Guarded C Q (some e) ∧ w'.exchanges = w.exchanges ++ [e] := by
  cases x with
  | ret a => cases hs
  | draw k =>
    cases hs
    exact .inl ⟨h _, World.exchanges_drawIn env w⟩
  | time k =>
    cases hs
    exact .inl ⟨h _, World.exchanges_readIn env w⟩
  | send req k =>
    cases hs
    exact .inr ⟨_, h.1, h.2 _, World.exchanges_sendIn env req w⟩

theorem exchanges_run_of_silent {x : Proc α} (hs : x.Sends fun _ => False) (env : Env) (w : World) :
    (x.run env w).2.exchanges = w.exchanges := by
  induction x generalizing w with
  | ret a => rfl
  | draw k ih => exact (ih _ (hs _) _).trans (World.exchanges_drawIn env w)
  | time k ih => exact (ih _ (hs _) _).trans (World.exchanges_readIn env w)
  | send req k ih => exact hs.1.elim

theorem Sends.exchanges {R : Request → Prop} {x : Proc α} (h : x.Sends R) (env : Env) :
    ∀ w : World, ∃ new, (x.run env w).2.exchanges = w.exchanges ++ new ∧ ∀ e ∈ new, R e.1 := by
  induction x with
  | ret a => exact fun w => ⟨[], (List.append_nil _).symm, fun _ h => nomatch h⟩
  | draw k ih =>
    intro w
    obtain ⟨new, hw, hr⟩ := ih (w.drawIn env).1 (h _) (w.drawIn env).2
    exact ⟨new, hw.trans (by rw [World.exchanges_drawIn]), hr⟩
  | time k ih =>
    intro w
    obtain ⟨new, hw, hr⟩ := ih (w.readIn env).1 (h _) (w.readIn env).2
    exact ⟨new, hw.trans (by rw [World.exchanges_readIn]), hr⟩
  | send req k ih =>
    intro w
    obtain ⟨new, hw, hr⟩ := ih (w.sendIn env req).1 (h.2 _) (w.sendIn env req).2
    refine ⟨(req, (w.sendIn env req).1) :: new,
      hw.trans (by rw [World.exchanges_sendIn, List.append_assoc]; rfl),
      fun e he => ?_⟩
    rcases List.mem_cons.1 he with rfl | he
    · exact h.1
    · exact hr e he

end Proc

/-! ## Calls that make at most one request -/

def FirstRequest (last : Option Exchange) (_ : Request) : Prop := last = none

namespace Proc

def AtMostOnce (Q : α → Option Exchange → Prop) (x : Proc α) : Prop :=
  x.Guarded FirstRequest Q none

variable {Q : α → Option Exchange → Prop}

theorem run_of_guarded_some (env : Env) {e : Exchange} {x : Proc α} :
    ∀ {w : World}, x.Guarded FirstRequest Q (some e) →
      (x.run env w).2.exchanges = w.exchanges ∧ Q (x.run env w).1 (some e) := by
  induction x with
  | ret a => exact fun h => ⟨rfl, h⟩
  | draw k ih =>
    intro w h
    obtain ⟨hw, hq⟩ := ih (w.drawIn env).1 (h _)
    exact ⟨hw.trans (World.exchanges_drawIn env w), hq⟩
  | time k ih =>
    intro w h
    obtain ⟨hw, hq⟩ := ih (w.readIn env).1 (h _)
    exact ⟨hw.trans (World.exchanges_readIn env w), hq⟩
  | send req k ih => exact fun h => nomatch h.1

theorem AtMostOnce.run {x : Proc α} (h : x.AtMostOnce Q) (env : Env) :
    ∀ w : World, ∃ o : Option Exchange,
      (x.run env w).2.exchanges = w.exchanges ++ o.toList ∧ Q (x.run env w).1 o := by
  induction x with
  | ret a => exact fun w => ⟨none, (List.append_nil _).symm, h⟩
  | draw k ih =>
    intro w
    obtain ⟨o, hw, hq⟩ := ih (w.drawIn env).1 (h _) (w.drawIn env).2
    exact ⟨o, hw.trans (by rw [World.exchanges_drawIn]), hq⟩
  | time k ih =>
    intro w
    obtain ⟨o, hw, hq⟩ := ih (w.readIn env).1 (h _) (w.readIn env).2
    exact ⟨o, hw.trans (by rw [World.exchanges_readIn]), hq⟩
  | send req k ih =>
    intro w
    obtain ⟨hw, hq⟩ := run_of_guarded_some env (w := (w.sendIn env req).2) (h.2 (w.sendIn env req).1)
    exact ⟨some (req, (w.sendIn env req).1), hw.trans (World.exchanges_sendIn env req w), hq⟩

theorem AtMostOnce.sends {R : Request → Prop} {x : Proc α} (h : x.AtMostOnce Q) (hs : x.Sends R) :
    x.AtMostOnce fun a o => Q a o ∧ ∀ e ∈ o, R e.1 :=
  Guarded.sends h hs fun e he => absurd he (Option.not_mem_none e)

end Proc

/-! ## `Py` code -/

def Py.Guarded (C : Option Exchange → Request → Prop) (Q : α → Option Exchange → Prop)
    (last : Option Exchange) (x : Py α) : Prop :=
  x.run.Guarded C (fun r l => ∀ a, r = .ok a → Q a l) last

section PyGuarded

variable {C : Option Exchange → Request → Prop} {last : Option Exchange}

theorem Py.Guarded.mono {Q Q' : α → Option Exchange → Prop} {x : Py α} (h : Py.Guarded C Q last x)
    (hQ : ∀ a l, Q a l → Q' a l) : Py.Guarded C Q' last x :=
  Proc.Guarded.mono h fun _ l hr a ha => hQ a l (hr a ha)

theorem Py.Guarded.bind {R : α → Option Exchange → Prop} {Q : β → Option Exchange → Prop}
    {x : Py α} {f : α → Py β} (hx : Py.Guarded C R last x)
    (hf : ∀ a l, R a l → Py.Guarded C Q l (f a)) : Py.Guarded C Q last (x >>= f) := by
  unfold Py.Guarded
  rw [ExceptT.run_bind]
  refine Proc.Guarded.bind hx fun r l hr => ?_
  rcases r with e | a
  · exact fun _ h => nomatch h
  · exact hf a l (hr a rfl)

theorem Py.guarded_request {req : Request} (h : C last req) :
    Py.Guarded C (fun response l => l = some (req, .ok response)) last (request req) :=
  ⟨h, fun _ _ hr => hr ▸ rfl⟩

theorem Py.guarded_ofExcept (x : Except Exc α) :
    Py.Guarded C (fun a l => x = .ok a ∧ l = last) last (Py.ofExcept x) :=
  fun _ h => ⟨h, rfl⟩

theorem Py.guarded_silent {R : α → Prop} {x : Py α} (hs : Py.Sends (fun _ => False) x)
    (hq : x.Returns R) : Py.Guarded C (fun a l => R a ∧ l = last) last x :=
  (Proc.guarded_of_silent hs hq).mono fun _ _ ⟨hr, hl⟩ a ha => ⟨hr a ha, hl⟩

/-! Exceptions as well as returns: `R` reads how the code ended, whichever way. -/

variable {R : Except Exc β → Option Exchange → Prop}

theorem Py.run_guarded_bind_silent {x : Py α} {f : α → Py β} (hs : Py.Sends (fun _ => False) x)
    (herr : ∀ e, R (.error e) last) (hf : ∀ a, (f a).run.Guarded C R last) :
    (x >>= f).run.Guarded C R last := by
  rw [ExceptT.run_bind]
  refine Proc.Guarded.bind_silent hs fun r => ?_
  rcases r with e | a
  · exact herr e
  · exact hf a

theorem Py.run_guarded_bind_lift {x : Proc α} {f : α → Py β} (hs : x.Sends fun _ => False)
    (hf : ∀ a, (f a).run.Guarded C R last) : (ExceptT.lift x >>= f).run.Guarded C R last := by
  rw [ExceptT.run_bind, ExceptT.run_lift, bind_map_left]
  exact Proc.Guarded.bind_silent hs hf

theorem Py.run_guarded_bind_choice {xs : List α} {f : α → Py β} (hne : xs ≠ [])
    (hf : ∀ a ∈ xs, (f a).run.Guarded C R last) : (choice xs >>= f).run.Guarded C R last := by
  obtain ⟨x, xs, rfl⟩ := List.exists_cons_of_ne_nil hne
  rw [choice, ExceptT.run_bind, ExceptT.run_lift, bind_map_left]
  exact (Proc.guarded_of_silent (choiceOf_sends _ x xs) (choiceOf_mem x xs)).bind fun a _ ⟨ha, hl⟩ =>
    hl ▸ hf a ha

theorem Py.run_guarded_bind_request {req : Request} {f : Response → Py β} (hC : C last req)
    (herr : ∀ e, R (.error e) (some (req, .error e)))
    (hf : ∀ response, (f response).run.Guarded C R (some (req, .ok response))) :
    (request req >>= f).run.Guarded C R last := by
  rw [ExceptT.run_bind]
  refine ⟨hC, fun r => ?_⟩
  rcases r with e | response
  · exact herr e
  · exact hf response

theorem Py.run_guarded_bind_ofExcept {x : Except Exc α} {f : α → Py β}
    (herr : ∀ e, x = .error e → R (.error e) last)
    (hf : ∀ a, x = .ok a → (f a).run.Guarded C R last) :
    (Py.ofExcept x >>= f).run.Guarded C R last := by
  rcases x with e | a
  · exact herr e rfl
  · exact hf a rfl

theorem Py.run_guarded_checked_json {req : Request} (hC : C last req) :
    (request req >>= fun response =>
      Py.ofExcept response.raiseForStatus >>= fun _ => Py.ofExcept response.json).run.Guarded C
      (fun r l => ∃ reply, l = some (req, reply) ∧ r.toOption = answerBody reply) last :=
  Py.run_guarded_bind_request hC (fun _ => ⟨_, rfl, rfl⟩) fun _ =>
    Py.run_guarded_bind_ofExcept (fun _ he => ⟨_, rfl, by rw [answerBody, he]; rfl⟩)
      fun _ he => ⟨_, rfl, by rw [answerBody, he]; rfl⟩

end PyGuarded

/-! ## Scripts -/

namespace Script

def Guarded (C : Option Exchange → Request → Prop) (P : Option Exchange → Prop) (x : Script σ α)
    (Q : α → Option Exchange → Prop) : Prop :=
  ∀ s l, P l → (x.run.run s).Guarded C (fun p l' => ∀ a, p.1 = .ok a → Q a l') l

section Guarded

variable {C : Option Exchange → Request → Prop} {P : Option Exchange → Prop}
  {Q : α → Option Exchange → Prop}

theorem Guarded.mono {P' : Option Exchange → Prop} {Q' : α → Option Exchange → Prop}
    {x : Script σ α} (h : Guarded C P x Q) (hP : ∀ l, P' l → P l) (hQ : ∀ a l, Q a l → Q' a l) :
    Guarded C P' x Q' :=
  fun s l hl => (h s l (hP l hl)).mono fun _ l' hr a ha => hQ a l' (hr a ha)

theorem guarded_silent {x : Script σ α} (hs : Sends (fun _ => False) x) (h : ∀ a l, P l → Q a l) :
    Guarded C P x Q :=
  fun s _ hl => (Proc.guarded_of_silent (hs s) (Proc.always_true _)).mono
    fun _ _ ⟨_, hl'⟩ a _ => h a _ (hl' ▸ hl)

theorem guarded_throw (r : Raise) : Guarded C P (throw r : Script σ α) Q :=
  fun _ _ _ _ h => nomatch h

theorem Guarded.bind {R : α → Option Exchange → Prop} {Q : β → Option Exchange → Prop}
    {x : Script σ α} {f : α → Script σ β} (hx : Guarded C P x R)
    (hf : ∀ a, Guarded C (R a) (f a) Q) : Guarded C P (x >>= f) Q := by
  intro s l hl
  simp only [ExceptT.run_bind, StateT.run_bind]
  refine (hx s l hl).bind fun p l' hp => ?_
  rcases p with ⟨_ | a, s'⟩
  · exact fun _ h => nomatch h
  · exact hf a s' l' (hp a rfl)

theorem Guarded.bind_get {Q : β → Option Exchange → Prop} {f : σ → Script σ β}
    (hf : ∀ g, Guarded C P (f g) Q) : Guarded C P (get >>= f) Q :=
  fun s => hf s s

theorem guarded_liftPy {x : Py α} (h : ∀ l, P l → Py.Guarded C Q l x) :
    Guarded C P (liftPy x : Script σ α) Q := fun s l hl =>
  Proc.Guarded.map (Proc.Guarded.mono (h l hl) fun r l' hr a ha => by
    rcases r with e | b
    · exact nomatch ha
    · exact hr a (by injection ha with h; rw [h]))

theorem Guarded.bind_liftPy_silent {R : α → Prop} {Q : β → Option Exchange → Prop} {x : Py α}
    {f : α → Script σ β} (hs : Py.Sends (fun _ => False) x) (hq : x.Returns R)
    (hf : ∀ a, R a → Guarded C P (f a) Q) : Guarded C P (liftPy x >>= f) Q :=
  (guarded_liftPy (Q := fun a l => R a ∧ P l) fun _ hl =>
    (Py.guarded_silent hs hq).mono fun _ _ ⟨ha, hl'⟩ => ⟨ha, hl' ▸ hl⟩).bind fun a =>
      fun s l ⟨ha, hl⟩ => hf a ha s l hl

theorem Guarded.bind_liftProc {R : α → Prop} {Q : β → Option Exchange → Prop} {x : Proc α}
    {f : α → Script σ β} (hs : x.Sends fun _ => False) (hq : x.Always R)
    (hf : ∀ a, R a → Guarded C P (f a) Q) : Guarded C P (liftProc x >>= f) Q :=
  Guarded.bind_liftPy_silent (Py.sends_lift hs) (Py.returns_lift hq) hf

theorem Guarded.bind_evalExpr {Q : β → Option Exchange → Prop} {x : Except Exc α}
    {f : α → Script σ β} (hf : ∀ a, x = .ok a → Guarded C P (f a) Q) :
    Guarded C P (evalExpr x >>= f) Q :=
  Guarded.bind_liftPy_silent (Py.sends_ofExcept x) (fun _ h => h) hf

theorem Guarded.tryExcept {body : Script σ α} {handler : Exc → Script σ α}
    (hb : Guarded C P body Q) (hh : ∀ e, Guarded C (fun _ => True) (handler e) Q) :
    Guarded C P (tryExcept body handler) Q := by
  intro s l hl
  simp only [Script.tryExcept, ExceptT.run_mk, StateT.run_bind]
  refine (hb s l hl).bind fun p l' hp => ?_
  rcases p with ⟨(_ | _) | a, s'⟩
  · exact hh _ s' l' trivial
  · exact fun _ h => nomatch h
  · exact hp

theorem Guarded.forM {I : Option Exchange → Prop} {f : α → Script σ Unit}
    (h : ∀ a, Guarded C I (f a) fun _ => I) : ∀ xs : List α, Guarded C I (xs.forM f) fun _ => I
  | [] => guarded_silent (sends_pure _) fun _ _ hl => hl
  | x :: xs => (h x).bind fun _ => Guarded.forM h xs

theorem exec_answers (x : Script σ α) (env : Env) (s : σ) (w : World) :
    ∀ e ∈ (x.exec env s w).2.exchanges, e ∈ w.exchanges ∨ ∃ n, e.2 = env.reply n e.1 :=
  Proc.run_answers env _ w

theorem Guarded.exec {x : Script σ α} (h : Guarded C P x Q) (env : Env) (s : σ) {w : World}
    (hw : P w.exchanges.getLast?) : World.GuardedSince C w (x.exec env s w).2 :=
  ((h s _ hw).run env).1

end Guarded

/-! ## Invariants of the globals and the exchanges -/

def Keeps (I : σ → List Exchange → Prop) (x : Script σ α) : Prop :=
  ∀ env g w, I g w.exchanges → I (x.exec env g w).1.2 (x.exec env g w).2.exchanges

section Keeps

variable {I : σ → List Exchange → Prop}

theorem keeps_pure (a : α) : Keeps I (pure a : Script σ α) := fun _ _ _ h => h

theorem keeps_evalExpr (x : Except Exc α) : Keeps I (evalExpr x : Script σ α) := fun _ _ _ h => h

theorem keeps_liftProc {x : Proc α} (hs : x.Sends fun _ => False) : Keeps I (liftProc x : Script σ α) :=
  fun env g w h => by rwa [exec_liftProc, Proc.exchanges_run_of_silent hs env w]

theorem Keeps.bind {x : Script σ α} {f : α → Script σ β} (hx : Keeps I x)
    (hf : ∀ a, Keeps I (f a)) : Keeps I (x >>= f) := by
  intro env g w h
  have h' := hx env g w h
  rw [exec_bind]
  generalize x.exec env g w = p at h'
  obtain ⟨⟨_ | a, g'⟩, w'⟩ := p
  · exact h'
  · exact hf a env g' w' h'

theorem keeps_throw (r : Raise) : Keeps I (throw r : Script σ α) := fun _ _ _ h => h

theorem keeps_modify {f : σ → σ} (hf : ∀ g es, I g es → I (f g) es) : Keeps I (modify f) :=
  fun _ g _ h => hf g _ h

theorem keeps_liftPy {R : Request → Prop} {x : Py α} (hs : x.Sends R)
    (hI : ∀ g es new, I g es → (∀ e ∈ new, R e.1) → I g (es ++ new)) :
    Keeps I (liftPy x : Script σ α) := by
  intro env g w h
  obtain ⟨new, hw, hnew⟩ := Proc.Sends.exchanges hs env w
  rw [exec_liftPy]
  dsimp only
  rw [hw]
  exact hI g _ new h hnew

theorem Keeps.bind_liftPy {Q : α → Prop} {R : Request → Prop} {x : Py α} {f : α → Script σ β}
    (hs : x.Sends R) (hq : x.Returns Q)
    (hI : ∀ g es new, I g es → (∀ e ∈ new, R e.1) → I g (es ++ new))
    (hf : ∀ a, Q a → Keeps I (f a)) : Keeps I (liftPy x >>= f) := by
  intro env g w h
  obtain ⟨new, hw, hnew⟩ := Proc.Sends.exchanges hs env w
  have hret := hq.run env w
  rw [exec_bind, exec_liftPy]
  generalize x.run.run env w = p at hw hret
  obtain ⟨_ | a, w'⟩ := p
  · exact hw ▸ hI g _ new h hnew
  · exact hf a (hret a rfl) env g w' (hw ▸ hI g _ new h hnew)

theorem Keeps.bind_liftPy_silent {Q : α → Prop} {x : Py α} {f : α → Script σ β}
    (hs : Py.Sends (fun _ => False) x) (hq : x.Returns Q) (hf : ∀ a, Q a → Keeps I (f a)) :
    Keeps I (liftPy x >>= f) :=
  Keeps.bind_liftPy hs hq
    (fun _ _ _ h hnew => by rwa [List.eq_nil_iff_forall_not_mem.2 hnew, List.append_nil]) hf

theorem Keeps.bind_get_of {J : σ → σ → List Exchange → Prop} {f : σ → Script σ β}
    (hJ : ∀ g es, I g es → J g g es) (hI : ∀ g g' es, J g g' es → I g' es)
    (hf : ∀ g, Keeps (J g) (f g)) : Keeps I (get >>= f) := fun env g w h => by
  rw [exec_bind, exec_get]
  exact hI g _ _ (hf g env g w (hJ g _ h))

theorem Keeps.bind_get {f : σ → Script σ β} (hf : ∀ g, Keeps I (f g)) : Keeps I (get >>= f) :=
  Keeps.bind_get_of (fun _ _ h => h) (fun _ _ _ h => h) hf

theorem Keeps.tryExcept {body : Script σ α} {handler : Exc → Script σ α} (hb : Keeps I body)
    (hh : ∀ e, Keeps I (handler e)) : Keeps I (tryExcept body handler) := by
  intro env g w h
  have h' := hb env g w h
  rw [exec_tryExcept]
  generalize body.exec env g w = p at h'
  obtain ⟨⟨(e | _) | _, g'⟩, w'⟩ := p
  · exact hh e env g' w' h'
  · exact h'
  · exact h'

theorem Keeps.forM_mem {f : α → Script σ Unit} : ∀ {xs : List α}, (∀ a ∈ xs, Keeps I (f a)) →
    Keeps I (xs.forM f)
  | [], _ => keeps_pure _
  | a :: _, h => (h a (List.mem_cons_self _ _)).bind fun _ =>
    Keeps.forM_mem fun b hb => h b (List.mem_cons_of_mem _ hb)

theorem Keeps.forM {f : α → Script σ Unit} (h : ∀ a, Keeps I (f a)) (xs : List α) :
    Keeps I (xs.forM f) :=
  Keeps.forM_mem fun a _ => h a

end Keeps

end Script

end WalletLoadTest.Python
