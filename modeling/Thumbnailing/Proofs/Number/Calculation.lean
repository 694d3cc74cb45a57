import Thumbnailing.Log.Traceback
import Thumbnailing.Proofs.Number.Overflow

set_option autoImplicit false

namespace Thumbnailing

/-- A number is too large for the format, or infinite where an integer is needed. -/
def ArithmeticFault.IsOverflow (fault : ArithmeticFault) : Prop :=
  fault.className = "OverflowError"

def Calculates {Result : Type} (kind : Result → Prop) (calculation : Except ArithmeticFault Result) :
    Prop :=
  (∃ result, calculation = .ok result ∧ kind result) ∨
    ∃ fault, ArithmeticFault.IsOverflow fault ∧ calculation = .error fault

namespace Calculates

variable {First Result : Type} {kind : Result → Prop}

theorem ok {result : Result} (holds : kind result) : Calculates kind (.ok result) :=
  .inl ⟨result, rfl, holds⟩

theorem overflow {fault : ArithmeticFault} (overflow : fault.IsOverflow) :
    Calculates kind (.error fault) := .inr ⟨fault, overflow, rfl⟩

theorem bind {between : First → Prop} {first : Except ArithmeticFault First}
    {next : First → Except ArithmeticFault Result} (calculates : Calculates between first)
    (onward : ∀ result, between result → Calculates kind (next result)) :
    Calculates kind (first >>= next) := by
  rcases calculates with ⟨result, rfl, holds⟩ | ⟨fault, overflow, rfl⟩
  · exact onward result holds
  · exact .overflow overflow

theorem imp {weaker : Result → Prop} {calculation : Except ArithmeticFault Result}
    (calculates : Calculates kind calculation) (implies : ∀ result, kind result → weaker result) :
    Calculates weaker calculation := by
  rcases calculates with ⟨result, ended, holds⟩ | failed
  · exact .inl ⟨result, ended, implies result holds⟩
  · exact .inr failed

end Calculates

namespace Binary64

def IsDefined : Binary64 → Prop
  | .undefined => False
  | _ => True

section

variable {x y : Binary64}

theorem ofQuotient_isDefined (negative : Bool) (numerator denominator : Nat) :
    (ofQuotient negative numerator denominator).IsDefined := by
  unfold ofQuotient
  split
  · trivial
  · simp only [carried]
    split <;> split <;> trivial

theorem neg_isDefined (defined : x.IsDefined) : x.neg.IsDefined := by
  cases x with
  | undefined => exact defined
  | _ => trivial

theorem add_isDefined (defined : x.IsDefined) (ordinary : y.IsOrdinary) : (x.add y).IsDefined := by
  cases y with
  | finite n₂ s₂ e₂ =>
    cases x with
    | finite n₁ s₁ e₁ =>
      simp only [add]
      split
      · trivial
      · exact ofQuotient_isDefined _ _ _
    | infinite negative => trivial
    | undefined => exact defined
  | _ => exact ordinary.elim

theorem mul_isDefined (first : x.IsOrdinary) (second : y.IsOrdinary) : (x.mul y).IsDefined := by
  cases x with
  | finite n₁ s₁ e₁ =>
    cases y with
    | finite n₂ s₂ e₂ => exact ofQuotient_isDefined _ _ _
    | _ => exact second.elim
  | _ => exact first.elim

theorem divNat_isDefined (defined : x.IsDefined) (divisor : Nat) :
    (x.divNat divisor).IsDefined := by
  cases x with
  | finite negative significand exponent => exact ofQuotient_isDefined _ _ _
  | _ => exact defined

theorem half_ordinary : half.IsOrdinary := by
  rw [half_eq]
  exact ⟨by decide, by decide⟩

theorem calculates_ofInt (n : Int) : Calculates IsOrdinary (ofInt n) := by
  rcases ofInt_cases n with ⟨-, failed⟩ | ⟨-, x, converted, ordinary⟩
  · exact .inr ⟨.integerTooLarge, rfl, failed⟩
  · exact .inl ⟨x, converted, ordinary⟩

theorem calculates_ratio {n d : Int} (natural : 0 ≤ n) (positive : 0 < d) :
    Calculates (fun x => x.IsOrdinary ∧ x.isNegative = false) (ratio n d) := by
  rcases ratio_cases natural positive with ⟨-, failed⟩ | ⟨-, x, divided, ordinary⟩
  · exact .inr ⟨.quotientTooLarge, rfl, failed⟩
  · exact .inl ⟨x, divided, ordinary⟩

theorem calculates_sqrt (ordinary : x.IsOrdinary) (natural : x.isNegative = false) :
    Calculates IsOrdinary x.sqrt :=
  .inl (sqrt_ordinary ordinary natural)

theorem calculates_toIntegerBy (rule : Bool → Nat → Nat → Int) (defined : x.IsDefined) :
    Calculates (fun _ => True) (x.toIntegerBy rule) := by
  cases x with
  | finite => exact .ok trivial
  | infinite => exact .overflow rfl
  | undefined => exact defined.elim

theorem calculates_roundHalfUp (defined : x.IsDefined) :
    Calculates (fun _ => True) x.roundHalfUp := by
  unfold roundHalfUp
  split
  · have rounded := calculates_toIntegerBy
      (fun negative numerator denominator => Int.fdiv (signed negative numerator) denominator)
      (add_isDefined (neg_isDefined defined) half_ordinary)
    exact rounded.bind fun _ _ => .ok trivial
  · exact calculates_toIntegerBy _ (add_isDefined defined half_ordinary)

end

theorem calculates_scaleInteger (n : Int) {scale : Binary64} (ordinary : scale.IsOrdinary) :
    Calculates IsDefined (scaleInteger n scale) :=
  (calculates_ofInt n).bind fun _ converted => .ok (mul_isDefined converted ordinary)

end Binary64

end Thumbnailing
