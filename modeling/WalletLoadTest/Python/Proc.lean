import WalletLoadTest.Python.Value

/-!
# Effects: the random module, the clock and the HTTP client

Script code is an effect tree.  Its leaves are results; its inner nodes are the
three ways the scripts consult the world outside their own code: one call into
the shared `random` module (`draw`), one reading of `time.time()` (`time`), and
one call of the HTTP client, `requests.get` or `requests.post` (`send`).

An environment fixes the world: the stream of draws, the sequence of clock
readings and the service, which answers the `n`-th call of a run.  Quantifying
over environments is quantifying over every seed, every clock and every
behaviour of the service.  `Proc.run` executes a tree on one thread; each effect
consumes the next draw, the next clock reading or the next answer, and is
appended to the world's event log.  `time.sleep` has no effect here, and `print`
is taken to succeed: standard output encodes every text the scripts print.  The
model's strings are Unicode scalar values, so an id holding a lone surrogate,
which `json.loads` accepts and `print` cannot encode, is outside it.

A call is what the script hands to `requests`: the URL it formats, the
`Idempotency-Key` header, the `json=` payload and the timeout.  Its answer is what
`requests` returns or raises once it is done.  What goes over the wire is left to
the service: `requests` follows a redirect with a request of its own, possibly to
another route, and the server parses the route and the wallet out of the URL
text, into which the scripts put ids unescaped.  The properties proved here are
about the calls the scripts make, for every answer a call can get, and every
call gets one: `requests`' `timeout` bounds each read of the socket, not the
call, so a service that trickles its answer forever is outside the model.  Only
`requests`' own serialisation of `json=` is modelled: a payload holding `NaN` or
an infinity raises before anything is sent (`Env.reply`).
-/

namespace WalletLoadTest.Python

/-- What one call into the `random` module reads: `_randbelow(n)` takes `bits % n`,
and `random()` takes `unit`, clamped into `[0, 1]`. -/
structure Draw where
  bits : Nat
  unit : ℚ
  deriving DecidableEq, Repr

/-- The URL a call formats, one template per helper: `/wallets`,
`/wallets/{id}/credit`, `/wallets/{id}/debit`, `/wallets/{id}/transfer`,
`/wallets/{id}` and `/ledger/wallet/{id}`. -/
inductive Endpoint where
  | createWallet
  | credit
  | debit
  | transfer
  | getWallet
  | getLedger
  deriving DecidableEq, Repr

/-- The arguments of one call: the URL template and the id formatted into it, the
`Idempotency-Key` header, the `json=` payload and the timeout. -/
structure Request where
  endpoint : Endpoint
  wallet : Option Json
  idempotencyKey : Option String
  body : List (String × Json)
  timeout : Nat

/-- The response a call returned: its status code, and its body when that parses
as JSON. -/
structure Response where
  status : Nat
  body : Option Json

/-- What `requests.get`/`requests.post` give back: a response, or the client's
exception (connection failure, timeout, too many redirects, invalid JSON). -/
abbrev Reply := Except Exc Response

inductive Proc (α : Type) where
  | ret (a : α)
  | draw (k : Draw → Proc α)
  | time (k : ℚ → Proc α)
  | send (req : Request) (k : Reply → Proc α)

namespace Proc

def bind : Proc α → (α → Proc β) → Proc β
  | .ret a, f => f a
  | .draw k, f => .draw fun d => (k d).bind f
  | .time k, f => .time fun t => (k t).bind f
  | .send req k, f => .send req fun r => (k r).bind f

instance : Monad Proc where
  pure := .ret
  bind := bind

@[simp] theorem pure_eq (a : α) : (pure a : Proc α) = .ret a := rfl

@[simp] theorem ret_bind (a : α) (f : α → Proc β) : (Proc.ret a >>= f) = f a := rfl

@[simp] theorem draw_bind (k : Draw → Proc α) (f : α → Proc β) :
    (Proc.draw k >>= f) = .draw fun d => k d >>= f := rfl

@[simp] theorem time_bind (k : ℚ → Proc α) (f : α → Proc β) :
    (Proc.time k >>= f) = .time fun t => k t >>= f := rfl

@[simp] theorem send_bind (req : Request) (k : Reply → Proc α) (f : α → Proc β) :
    (Proc.send req k >>= f) = .send req fun r => k r >>= f := rfl

theorem bind_ret (x : Proc α) : x >>= Proc.ret = x := by
  induction x with
  | ret a => rfl
  | draw k ih => exact congrArg draw (funext ih)
  | time k ih => exact congrArg time (funext ih)
  | send req k ih => exact congrArg (send req) (funext ih)

theorem bind_assoc (x : Proc α) (f : α → Proc β) (g : β → Proc γ) :
    x >>= f >>= g = x >>= fun a => f a >>= g := by
  induction x with
  | ret a => rfl
  | draw k ih => exact congrArg draw (funext ih)
  | time k ih => exact congrArg time (funext ih)
  | send req k ih => exact congrArg (send req) (funext ih)

instance : LawfulMonad Proc :=
  LawfulMonad.mk' Proc (fun x => bind_ret x) (fun _ _ => rfl) bind_assoc

end Proc

/-- The world a run executes in: every draw, clock reading and answer it will see. -/
structure Env where
  draws : Nat → Draw
  clock : Nat → ℚ
  service : Nat → Request → Reply

/-- The payload serialises: `json.dumps(payload, allow_nan=False)`, which `requests`
runs on `json=`, does not raise. -/
def Request.serialisable (req : Request) : Bool := Json.finiteFields req.body

/-- What the `n`-th call gives back: `InvalidJSONError`, a `RequestException`, before
anything is sent when the payload does not serialise, and the service's answer
otherwise. -/
def Env.reply (env : Env) (n : Nat) (req : Request) : Reply :=
  if req.serialisable then env.service n req else .error .requestException

inductive Event where
  | drew (d : Draw)
  | read (t : ℚ)
  | sent (req : Request) (reply : Reply)

def Event.request? : Event → Option Request
  | .sent req _ => some req
  | _ => none

structure World where
  drawn : Nat
  ticks : Nat
  sent : Nat
  log : List Event

namespace World

def start : World := ⟨0, 0, 0, []⟩

def requests (w : World) : List Request := w.log.filterMap Event.request?

def drawIn (env : Env) (w : World) : Draw × World :=
  (env.draws w.drawn, { w with drawn := w.drawn + 1, log := w.log ++ [.drew (env.draws w.drawn)] })

def readIn (env : Env) (w : World) : ℚ × World :=
  (env.clock w.ticks, { w with ticks := w.ticks + 1, log := w.log ++ [.read (env.clock w.ticks)] })

def sendIn (env : Env) (req : Request) (w : World) : Reply × World :=
  (env.reply w.sent req,
    { w with sent := w.sent + 1, log := w.log ++ [.sent req (env.reply w.sent req)] })

@[simp] theorem requests_drawIn (env : Env) (w : World) : (w.drawIn env).2.requests = w.requests := by
  simp [requests, drawIn, Event.request?]

@[simp] theorem requests_readIn (env : Env) (w : World) : (w.readIn env).2.requests = w.requests := by
  simp [requests, readIn, Event.request?]

@[simp] theorem requests_sendIn (env : Env) (req : Request) (w : World) :
    (w.sendIn env req).2.requests = w.requests ++ [req] := by
  simp [requests, sendIn, Event.request?]

def SentSince (R : Request → Prop) (w w' : World) : Prop :=
  ∃ new, w'.requests = w.requests ++ new ∧ ∀ req ∈ new, R req

theorem SentSince.refl (R : Request → Prop) (w : World) : SentSince R w w :=
  ⟨[], (List.append_nil _).symm, List.forall_mem_nil _⟩

theorem SentSince.trans {R : Request → Prop} {w w' w'' : World} (h : SentSince R w w')
    (h' : SentSince R w' w'') : SentSince R w w'' := by
  obtain ⟨new, hw, hnew⟩ := h
  obtain ⟨new', hw', hnew'⟩ := h'
  exact ⟨new ++ new', by rw [hw', hw, List.append_assoc], List.forall_mem_append.2 ⟨hnew, hnew'⟩⟩

theorem SentSince.of_requests_eq {R : Request → Prop} {w w' : World}
    (h : w'.requests = w.requests) : SentSince R w w' :=
  ⟨[], by rw [h, List.append_nil], List.forall_mem_nil _⟩

theorem SentSince.start {R : Request → Prop} {w : World} (h : SentSince R start w) :
    ∀ req ∈ w.requests, R req := by
  obtain ⟨new, hw, hnew⟩ := h
  rw [hw]
  exact hnew

end World

namespace Proc

def run (env : Env) : Proc α → World → α × World
  | .ret a, w => (a, w)
  | .draw k, w => (k (w.drawIn env).1).run env (w.drawIn env).2
  | .time k, w => (k (w.readIn env).1).run env (w.readIn env).2
  | .send req k, w => (k (w.sendIn env req).1).run env (w.sendIn env req).2

def step (env : Env) : Proc α → World → Option (Proc α × World)
  | .ret _, _ => none
  | .draw k, w => some (k (w.drawIn env).1, (w.drawIn env).2)
  | .time k, w => some (k (w.readIn env).1, (w.readIn env).2)
  | .send req k, w => some (k (w.sendIn env req).1, (w.sendIn env req).2)

@[simp] theorem run_ret (env : Env) (a : α) (w : World) : (Proc.ret a).run env w = (a, w) := rfl

theorem run_bind (env : Env) (x : Proc α) (f : α → Proc β) (w : World) :
    (x >>= f).run env w = (f (x.run env w).1).run env (x.run env w).2 := by
  induction x generalizing w with
  | ret a => rfl
  | draw k ih => exact ih _ _
  | time k ih => exact ih _ _
  | send req k ih => exact ih _ _

theorem run_map (env : Env) (f : α → β) (x : Proc α) (w : World) :
    (f <$> x).run env w = (f (x.run env w).1, (x.run env w).2) := by
  rw [← bind_pure_comp, run_bind]
  rfl

def Always (P : α → Prop) : Proc α → Prop
  | .ret a => P a
  | .draw k => ∀ d, (k d).Always P
  | .time k => ∀ t, (k t).Always P
  | .send _ k => ∀ r, (k r).Always P

@[simp] theorem always_ret {P : α → Prop} {a : α} : (Proc.ret a).Always P ↔ P a := Iff.rfl

theorem Always.mono {P Q : α → Prop} {x : Proc α} (h : x.Always P) (hPQ : ∀ a, P a → Q a) :
    x.Always Q := by
  induction x with
  | ret a => exact hPQ a h
  | draw k ih => exact fun d => ih d (h d)
  | time k ih => exact fun t => ih t (h t)
  | send req k ih => exact fun r => ih r (h r)

theorem Always.bind {P : α → Prop} {Q : β → Prop} {x : Proc α} {f : α → Proc β}
    (hx : x.Always P) (hf : ∀ a, P a → (f a).Always Q) : (x >>= f).Always Q := by
  induction x with
  | ret a => exact hf a hx
  | draw k ih => exact fun d => ih d (hx d)
  | time k ih => exact fun t => ih t (hx t)
  | send req k ih => exact fun r => ih r (hx r)

theorem always_of_forall {P : α → Prop} (h : ∀ a, P a) (x : Proc α) : x.Always P := by
  induction x with
  | ret a => exact h a
  | draw k ih => exact ih
  | time k ih => exact ih
  | send req k ih => exact ih

theorem always_true (x : Proc α) : x.Always fun _ => True := always_of_forall (fun _ => trivial) x

theorem always_map {P : β → Prop} {f : α → β} {x : Proc α} :
    (f <$> x).Always P ↔ x.Always (P ∘ f) := by
  induction x with
  | ret a => exact Iff.rfl
  | draw k ih => exact forall_congr' ih
  | time k ih => exact forall_congr' ih
  | send req k ih => exact forall_congr' ih

theorem Always.run {P : α → Prop} {x : Proc α} (h : x.Always P) (env : Env) (w : World) :
    P (x.run env w).1 := by
  induction x generalizing w with
  | ret a => exact h
  | draw k ih => exact ih _ (h _) _
  | time k ih => exact ih _ (h _) _
  | send req k ih => exact ih _ (h _) _

theorem Always.step {P : α → Prop} {x x' : Proc α} {env : Env} {w w' : World}
    (h : x.Always P) (hs : x.step env w = some (x', w')) : x'.Always P := by
  cases x with
  | ret a => cases hs
  | draw k => cases hs; exact h _
  | time k => cases hs; exact h _
  | send req k => cases hs; exact h _

/-! ## Requests -/

def Sends (R : Request → Prop) : Proc α → Prop
  | .ret _ => True
  | .draw k => ∀ d, (k d).Sends R
  | .time k => ∀ t, (k t).Sends R
  | .send req k => R req ∧ ∀ r, (k r).Sends R

variable {R : Request → Prop}

theorem sends_ret (a : α) : (Proc.ret a).Sends R := trivial

theorem Sends.bind {P : α → Prop} {x : Proc α} {f : α → Proc β} (hx : x.Sends R)
    (hP : x.Always P) (hf : ∀ a, P a → (f a).Sends R) : (x >>= f).Sends R := by
  induction x with
  | ret a => exact hf a hP
  | draw k ih => exact fun d => ih d (hx d) (hP d)
  | time k ih => exact fun t => ih t (hx t) (hP t)
  | send req k ih => exact ⟨hx.1, fun r => ih r (hx.2 r) (hP r)⟩

theorem Sends.bind' {x : Proc α} {f : α → Proc β} (hx : x.Sends R) (hf : ∀ a, (f a).Sends R) :
    (x >>= f).Sends R :=
  hx.bind (always_true x) fun a _ => hf a

theorem Sends.map {f : α → β} {x : Proc α} (hx : x.Sends R) : (f <$> x).Sends R :=
  hx.bind' fun _ => trivial

theorem Sends.run {x : Proc α} (h : x.Sends R) (env : Env) (w : World) :
    World.SentSince R w (x.run env w).2 := by
  induction x generalizing w with
  | ret a => exact .refl R w
  | draw k ih => exact (World.SentSince.of_requests_eq (World.requests_drawIn env w)).trans (ih _ (h _) _)
  | time k ih => exact (World.SentSince.of_requests_eq (World.requests_readIn env w)).trans (ih _ (h _) _)
  | send req k ih =>
    exact World.SentSince.trans ⟨[req], World.requests_sendIn env req w, by simpa using h.1⟩
      (ih _ (h.2 _) _)

theorem Sends.step {x x' : Proc α} {env : Env} {w w' : World} (h : x.Sends R)
    (hs : x.step env w = some (x', w')) : x'.Sends R ∧ World.SentSince R w w' := by
  cases x with
  | ret a => cases hs
  | draw k => cases hs; exact ⟨h _, .of_requests_eq (World.requests_drawIn env w)⟩
  | time k => cases hs; exact ⟨h _, .of_requests_eq (World.requests_readIn env w)⟩
  | send req k =>
    cases hs
    exact ⟨h.2 _, [req], World.requests_sendIn env req w, by simpa using h.1⟩

end Proc

end WalletLoadTest.Python
