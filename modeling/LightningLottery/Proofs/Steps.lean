/-
  Steps that may fail, one after the other.

  * `bind_eq_ok_iff`: all steps succeed, or the whole does not.
  * `toOption_eq_some_iff`: a step that succeeds, told by what is left of it without its error.
  * `earliestFault`, `unlessFault`: checks in a row, of which the first that fails is told of.
-/
import LightningLottery.Error

namespace LightningLottery

variable {ε α β : Type}

theorem bind_eq_ok_iff {x : Except ε α} {f : α → Except ε β} {b : β} :
    x >>= f = .ok b ↔ ∃ a, x = .ok a ∧ f a = .ok b := by
  cases x with
  | error e =>
    constructor
    · intro h; cases h
    · rintro ⟨a, h, -⟩; cases h
  | ok a =>
    constructor
    · intro h; exact ⟨a, rfl, h⟩
    · rintro ⟨a', h, hf⟩; cases h; exact hf

theorem toOption_eq_some_iff {x : Except ε α} {a : α} : x.toOption = some a ↔ x = .ok a := by
  cases x with
  | error e => exact ⟨nofun, nofun⟩
  | ok b => exact ⟨fun h => congrArg _ (Option.some.inj h), fun h => by cases h; rfl⟩

/-! ## Checks one after the other -/

/-- The first fault in the order of a list of checks. -/
def earliestFault (checks : List (Option Error)) : Option Error := checks.findSome? id

theorem earliestFault_nil : earliestFault [] = none := rfl

theorem earliestFault_cons (check : Option Error) (checks : List (Option Error)) :
    earliestFault (check :: checks) = check.or (earliestFault checks) := by
  cases check <;> rfl

/-- A value, unless there is a fault. -/
def unlessFault (fault? : Option Error) (value : α) : Except Error α :=
  match fault? with
  | some e => .error e
  | none => .ok value

section
variable {fault? after? : Option Error} {a : α} {b : β}

theorem unlessFault_eq_ok_iff {a' : α} :
    unlessFault fault? a = .ok a' ↔ fault? = none ∧ a = a' := by
  cases fault? <;> simp [unlessFault]

theorem unlessFault_eq_error_iff {e : Error} :
    unlessFault fault? a = .error e ↔ fault? = some e := by
  cases fault? <;> simp [unlessFault]

theorem unlessFault_bind (f : α → Except Error β) (h : f a = unlessFault after? b) :
    (unlessFault fault? a >>= f) = unlessFault (fault?.or after?) b := by
  cases fault? with
  | none => exact h
  | some e => rfl

end

end LightningLottery
