import Mathlib.Data.Nat.Digits
import WalletLoadTest.Python.Script

/-!
# Timestamped identifiers

Both scripts build their wallet ids, owner ids and idempotency keys the same way,
`f"{prefix}-{int(time.time()*1000)}-{random.randint(lo, hi)}"`:
`generate_wallet_id` and `generate_idempotency_key` in `load_test_wallets.py`,
`gen_id` in `quick_load_test.py`.  Nothing else makes them distinct.
-/

namespace WalletLoadTest

open Python

/-- The text of an identifier: prefix, milliseconds and random suffix. -/
def renderId (pfx : String) (ms : Int) (suffix : Nat) : String :=
  pfx ++ "-" ++ toString ms ++ "-" ++ toString suffix

/-- One clock reading, then one draw for the suffix. -/
def timestampedId (pfx : String) (lo hi : Nat) : Proc String := do
  let t ← time
  let suffix ← randint lo hi
  return renderId pfx (millis t) suffix

theorem timestampedId_sends (R : Request → Prop) (pfx : String) (lo hi : Nat) :
    (timestampedId pfx lo hi).Sends R :=
  fun _ _ => trivial

theorem timestampedId_run (pfx : String) (lo hi : Nat) (env : Env) (w : World) :
    ((timestampedId pfx lo hi).run env w).1 =
      renderId pfx (millis (env.clock w.ticks)) (lo + (env.draws w.drawn).bits % (hi + 1 - lo)) :=
  rfl

/-! ## Reading an identifier back

The decimal text of a number has no `-`, so the last `-` of an identifier starts
its suffix; reading the digits back gives the number.  An identifier therefore
determines its millisecond reading and its suffix. -/

def digitsValue (ds : List Char) (acc : Nat) : Nat :=
  ds.foldl (fun acc c => acc * 10 + (c.toNat - 48)) acc

theorem digitChar_digit : ∀ k < 10, (Nat.digitChar k).toNat - 48 = k ∧ Nat.digitChar k ≠ '-' := by
  decide

theorem digitsValue_toDigitsCore {f n : Nat} (ds : List Char) (hn : n < f) :
    digitsValue (Nat.toDigitsCore 10 f n ds) 0 = digitsValue ds n := by
  induction f generalizing n ds with
  | zero => omega
  | succ f ih =>
    have hd := (digitChar_digit (n % 10) (Nat.mod_lt _ (by decide))).1
    simp only [Nat.toDigitsCore]
    split
    · simp only [digitsValue, List.foldl_cons, hd]
      congr 1
      omega
    · rw [ih _ (by omega)]
      simp only [digitsValue, List.foldl_cons, hd, Nat.div_add_mod']

theorem toDigits_injective {n m : Nat} (h : Nat.toDigits 10 n = Nat.toDigits 10 m) : n = m := by
  have hn := digitsValue_toDigitsCore [] (Nat.lt_succ_self n)
  have hm := digitsValue_toDigitsCore [] (Nat.lt_succ_self m)
  simp only [Nat.toDigits] at h
  rw [h, hm] at hn
  exact hn.symm

theorem minus_not_mem_toDigitsCore {f n : Nat} {ds : List Char} (h : '-' ∉ ds) :
    '-' ∉ Nat.toDigitsCore 10 f n ds := by
  induction f generalizing n ds with
  | zero => exact h
  | succ f ih =>
    have hd : '-' ∉ Nat.digitChar (n % 10) :: ds :=
      List.not_mem_cons_of_ne_of_not_mem (digitChar_digit _ (Nat.mod_lt _ (by decide))).2.symm h
    simp only [Nat.toDigitsCore]
    split
    · exact hd
    · exact ih hd

theorem minus_not_mem_toString (n : Nat) : '-' ∉ (toString n).data :=
  minus_not_mem_toDigitsCore (List.not_mem_nil _)

theorem toString_int_injective {a b : Int} (h : (toString a).data = (toString b).data) :
    a = b := by
  have hminus : ∀ m k : Nat, (toString m).data ≠ (toString (Int.negSucc k)).data :=
    fun m k hmk => minus_not_mem_toString m (hmk ▸ List.mem_cons_self _ _)
  cases a with
  | ofNat m =>
    cases b with
    | ofNat m' => exact congrArg _ (toDigits_injective h)
    | negSucc k' => exact absurd h (hminus m k')
  | negSucc k =>
    cases b with
    | ofNat m' => exact absurd h.symm (hminus m' k)
    | negSucc k' =>
      have h' := List.cons.inj h
      exact congrArg _ (Nat.succ.inj (toDigits_injective h'.2))

theorem append_cons_cancel {c : Char} :
    ∀ {l₁ l₂ r₁ r₂ : List Char}, c ∉ r₁ → c ∉ r₂ → l₁ ++ c :: r₁ = l₂ ++ c :: r₂ →
      l₁ = l₂ ∧ r₁ = r₂
  | [], [], _, _, _, _, h => ⟨rfl, (List.cons.inj h).2⟩
  | [], _ :: l₂, _, _, h₁, _, h => absurd (List.cons.inj h).2 fun e => h₁ (e ▸ by
      simp [(List.cons.inj h).1])
  | _ :: l₁, [], _, _, _, h₂, h => absurd (List.cons.inj h).2.symm fun e => h₂ (e ▸ by
      simp [(List.cons.inj h).1])
  | _ :: l₁, _ :: l₂, _, _, h₁, h₂, h => by
    obtain ⟨rfl, h'⟩ := List.cons.inj h
    obtain ⟨rfl, rfl⟩ := append_cons_cancel h₁ h₂ h'
    exact ⟨rfl, rfl⟩

/-- An identifier determines its millisecond reading and its suffix. -/
theorem renderId_inj {pfx : String} {ms ms' : Int} {suffix suffix' : Nat} :
    renderId pfx ms suffix = renderId pfx ms' suffix' ↔ ms = ms' ∧ suffix = suffix' := by
  refine ⟨fun h => ?_, fun ⟨h₁, h₂⟩ => h₁ ▸ h₂ ▸ rfl⟩
  have hd := congrArg String.data h
  simp only [renderId, String.data_append, List.append_assoc] at hd
  obtain ⟨h₁, h₂⟩ := append_cons_cancel (minus_not_mem_toString suffix)
    (minus_not_mem_toString suffix') (List.cons.inj (List.append_cancel_left hd)).2
  exact ⟨toString_int_injective h₁, toDigits_injective h₂⟩

/-- Two identifiers of one generator, drawn at any two points of a run, are equal
exactly when the two clock readings fall in the same millisecond and the two draws
give the same suffix. -/
theorem timestampedId_eq_iff (pfx : String) (lo hi : Nat) (env : Env) (w w' : World) :
    ((timestampedId pfx lo hi).run env w).1 = ((timestampedId pfx lo hi).run env w').1 ↔
      millis (env.clock w.ticks) = millis (env.clock w'.ticks) ∧
        (env.draws w.drawn).bits % (hi + 1 - lo) = (env.draws w'.drawn).bits % (hi + 1 - lo) := by
  rw [timestampedId_run, timestampedId_run, renderId_inj, Nat.add_left_cancel_iff]

end WalletLoadTest
