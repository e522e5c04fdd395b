import Packrat.Proofs.Meaning

/-! What a body means does not depend on whether results are remembered. -/
namespace Packrat

def Setup.caching (env : Setup) (on : Bool) : Setup :=
  { env with config := { env.config with memoize := on } }

namespace Meaning

variable {env : Setup} {on : Bool}

theorem skippedCaching (fuel : Nat) (p : Place) : skipped (env.caching on) fuel p = skipped env fuel p := by
  induction fuel generalizing p with
  | zero => rfl
  | succ fuel ih =>
    simp only [skipped, ih]
    rfl

theorem recoveredCaching (failure : Failure) (p : Place) :
    recovered (env.caching on) failure p = recovered env failure p := by
  unfold recovered
  rw [skippedCaching]
  rfl

end Meaning

theorem Setup.meaningCaching (env : Setup) (on : Bool) : (env.caching on).meaning = env.meaning := by
  simp only [meaning, Meaning.recoveredCaching]
  rfl

end Packrat
