import Mathlib.Tactic.Lemma
/-!
# Steps that may fail

The readers and the migration of this library are sequences of steps in `Except`.  These equations
carry such a sequence out one step at a time, so that proofs never open its bind.
-/

namespace SessionVault

variable {ε α β : Type}

/-- After a step that gave a result, the sequence goes on with it. -/
@[simp] lemma ok_bind (a : α) (f : α → Except ε β) : (Except.ok a >>= f) = f a := rfl

/-- After a step that failed, the sequence has failed. -/
@[simp] lemma error_bind (e : ε) (f : α → Except ε β) :
    ((Except.error e : Except ε α) >>= f) = .error e := rfl

/-- A step that has a result has succeeded. -/
lemma eq_ok_of_toOption {result : Except ε α} {a : α} (h : result.toOption = some a) :
    result = .ok a := by
  cases result with
  | error e => cases h
  | ok b =>
    cases h
    rfl

end SessionVault
