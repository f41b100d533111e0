/-!
# Logged results

A logged result pairs a value with the entries that were written on the way to it. In a sequence
of computations the entries stand in the order in which the computations ran.

* `Logged.value_bind`, `Logged.log_bind`: what a sequence returns and what it has written.
-/
namespace RuntimeContracts

/-- A value and the log that was written while it was computed. -/
structure Logged (ε : Type u) (β : Type v) where
  value : β
  log : List ε

namespace Logged

/-- One entry and no value of interest. -/
def entry (e : ε) : Logged ε Unit := ⟨(), [e]⟩

instance : Monad (Logged ε) where
  pure b := ⟨b, []⟩
  bind x f := ⟨(f x.value).value, x.log ++ (f x.value).log⟩

@[ext] theorem ext {x y : Logged ε β} (hv : x.value = y.value) (hl : x.log = y.log) : x = y := by
  cases x; cases y; simp_all

@[simp] theorem value_pure (b : β) : (pure b : Logged ε β).value = b := rfl

@[simp] theorem log_pure (b : β) : (pure b : Logged ε β).log = [] := rfl

@[simp] theorem value_bind (x : Logged ε β) (f : β → Logged ε γ) :
    (x >>= f).value = (f x.value).value := rfl

@[simp] theorem log_bind (x : Logged ε β) (f : β → Logged ε γ) :
    (x >>= f).log = x.log ++ (f x.value).log := rfl

@[simp] theorem value_map (f : β → γ) (x : Logged ε β) : (f <$> x).value = f x.value := rfl

@[simp] theorem log_map (f : β → γ) (x : Logged ε β) : (f <$> x).log = x.log :=
  List.append_nil x.log

instance : LawfulMonad (Logged ε) := LawfulMonad.mk' (Logged ε)
  (fun x => ext rfl (log_map id x))
  (fun _ _ => ext rfl rfl)
  (fun x f g => ext rfl (List.append_assoc x.log (f x.value).log (g (f x.value).value).log))

end Logged

end RuntimeContracts
