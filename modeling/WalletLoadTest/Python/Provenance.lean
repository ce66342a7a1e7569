import WalletLoadTest.Python.Dialog

/-!
# Which wallets a request names, and where they came from

Both scripts take the wallets their requests name from the service's answers to
their own requests to `/wallets`.  `namedWallets` reads the wallets a request
names, `Issued es x` says that an answer to a `/wallets` request of `es`
returned the id `x`, and `NamesOnlyIssued es` that every request of `es` names
only wallets issued before it.  `IssuedSince base ids es` is what the scripts
keep along a run: since `base`, every request named only wallets issued before
it, and so is every id of `ids`.
-/

namespace WalletLoadTest.Python

def namedWallets (req : Request) : List Json :=
  req.wallet.toList ++ (req.body.lookup "toWalletId").toList

def NamesIn (walletIds : List Json) (req : Request) : Prop :=
  ∀ x ∈ namedWallets req, x ∈ walletIds

def returnedId (reply : Reply) : Option Json :=
  (answerBody reply).bind fun data => (data.getItem "id").toOption

/-- The answer to one of the requests to `/wallets` of `es` returned `walletId`. -/
def Issued (es : List Exchange) (walletId : Json) : Prop :=
  ∃ e ∈ es, e.1.endpoint = .createWallet ∧ returnedId e.2 = some walletId

/-- Every request of `es` names only wallets that the answers before it issued. -/
def NamesOnlyIssued (es : List Exchange) : Prop :=
  ∀ pre e post, es = pre ++ e :: post → ∀ x ∈ namedWallets e.1, Issued pre x

def IssuedSince (base : List Exchange) (ids : List Json) (es : List Exchange) : Prop :=
  ∃ new, es = base ++ new ∧ NamesOnlyIssued new ∧ ∀ x ∈ ids, Issued new x

theorem Issued.mono {es es' : List Exchange} {walletId : Json} (h : es ⊆ es')
    (hi : Issued es walletId) : Issued es' walletId :=
  let ⟨e, he, hroute, hid⟩ := hi
  ⟨e, h he, hroute, hid⟩

theorem namesOnlyIssued_of_unnamed {es : List Exchange} (h : ∀ e ∈ es, namedWallets e.1 = []) :
    NamesOnlyIssued es := fun pre e post hes x hx => by
  rw [h e (hes ▸ List.mem_append_right pre (List.mem_cons_self e post))] at hx
  exact absurd hx (List.not_mem_nil x)

theorem NamesOnlyIssued.append {es new : List Exchange} (h : NamesOnlyIssued es)
    (hnew : ∀ e ∈ new, ∀ x ∈ namedWallets e.1, Issued es x) : NamesOnlyIssued (es ++ new) := by
  intro pre e post heq x hx
  rcases List.append_eq_append_iff.1 heq with ⟨mid, rfl, rfl⟩ | ⟨mid, rfl, hmid⟩
  · exact (hnew e (List.mem_append_right mid (List.mem_cons_self e post)) x hx).mono
      (List.subset_append_left es mid)
  · cases mid with
    | nil =>
      have := hnew e (by rw [← List.nil_append new, ← hmid]; exact List.mem_cons_self e post) x hx
      rwa [List.append_nil] at this
    | cons e' mid =>
      rw [List.cons_append] at hmid
      obtain ⟨rfl, -⟩ := List.cons.inj hmid
      exact h pre e mid rfl x hx

theorem issuedSince_nil (base : List Exchange) : IssuedSince base [] base :=
  ⟨[], (List.append_nil base).symm, namesOnlyIssued_of_unnamed fun _ h => absurd h (List.not_mem_nil _),
    fun _ h => absurd h (List.not_mem_nil _)⟩

section IssuedSince

variable {base es : List Exchange} {ids ids' : List Json}

theorem IssuedSince.extend (h : IssuedSince base ids es) {new : List Exchange}
    (hnew : ∀ e ∈ new, NamesIn ids e.1) (hids : ids' ⊆ ids) : IssuedSince base ids' (es ++ new) := by
  obtain ⟨old, rfl, hnames, hold⟩ := h
  exact ⟨old ++ new, List.append_assoc _ _ _, hnames.append fun e he x hx => hold x (hnew e he x hx),
    fun x hx => (hold x (hids hx)).mono (List.subset_append_left old new)⟩

theorem IssuedSince.mono (h : IssuedSince base ids es) (hids : ids' ⊆ ids) : IssuedSince base ids' es :=
  let ⟨new, hes, hnames, hnew⟩ := h
  ⟨new, hes, hnames, fun x hx => hnew x (hids hx)⟩

theorem IssuedSince.create (h : IssuedSince base ids es) {e : Exchange}
    (hroute : e.1.endpoint = .createWallet) (hnamed : namedWallets e.1 = [])
    (hids : ∀ x ∈ ids', x ∈ ids ∨ returnedId e.2 = some x) : IssuedSince base ids' (es ++ [e]) := by
  obtain ⟨old, rfl, hnames, hold⟩ := h
  refine ⟨old ++ [e], List.append_assoc _ _ _, hnames.append fun e' he' x hx => ?_, fun x hx => ?_⟩
  · rw [List.mem_singleton.1 he', hnamed] at hx
    exact absurd hx (List.not_mem_nil x)
  · rcases hids x hx with hx | hx
    · exact (hold x hx).mono (List.subset_append_left old [e])
    · exact ⟨e, List.mem_append_right old (List.mem_singleton_self e), hroute, hx⟩

end IssuedSince

theorem returnedId_of_answerBody {reply : Reply} {data walletId : Json}
    (h : answerBody reply = some data) (hid : data.getItem "id" = .ok walletId) :
    returnedId reply = some walletId := by
  simp [returnedId, Except.toOption, h, hid]

end WalletLoadTest.Python
