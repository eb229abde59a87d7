import Mathlib.Tactic.Cases
import SearchQuery.Diagnostic

/-!
# Messages of findings

The first characters of a message tell what was found, unless a part is missing, whose message is
given with it.
-/

namespace SearchQuery.Finding

/-- How the message of a finding begins. -/
def opening : Finding → String
  | .unknownQualifier _ => "Unknown qua"
  | .conflict _ => "Conflicts w"
  | .unknownValue _ | .unknownCriteria => "Unknown val"
  | .invalidValue _ => "Invalid val"
  | .unknownVariable => "Unknown var"
  | .unbalancedRange => "Range must "
  | .missing message => String.ofList (message.toList.take 11)
  | .orInDefinition => "OR is not s"
  | .selfReference => "Cannot refe"

private theorem take_append (front back : String) {count : Nat}
    (long : count ≤ front.toList.length) :
    (front ++ back).toList.take count = front.toList.take count := by
  rw [String.toList_append, List.take_append_of_le_length long]

theorem take_message (finding : Finding) :
    String.ofList (finding.message.toList.take 11) = finding.opening := by
  cases finding with
  | unknownQualifier name =>
      have message_eq : (unknownQualifier name).message = "Unknown qualifier: '" ++ (name ++ "'") :=
        String.append_assoc ..
      rw [message_eq, take_append "Unknown qualifier: '" _ (by decide)]
      rfl
  | unknownValue sets =>
      exact congrArg _ (take_append "Unknown value, must be one of: " _ (by decide))
  | unknownCriteria =>
      exact congrArg _ (take_append "Unknown value, must be one of: " _ (by decide))
  | invalidValue type =>
      exact congrArg _ (take_append "Invalid value, expected " _ (by decide))
  | conflict earlier =>
      change String.ofList ("Conflicts with mutual exclusive expression".toList.take 11) = _
      rfl
  | _ => rfl

theorem opening_eq_of_message_eq {left right : Finding} (same : left.message = right.message) :
    left.opening = right.opening := by
  rw [← take_message, ← take_message, same]

/-- Only an unknown variable is said to be one, but for what is missing. -/
theorem eq_unknownVariable_of_message_eq {finding : Finding}
    (same : finding.message = "Unknown variable") :
    finding = .unknownVariable ∨ ∃ message, finding = .missing message := by
  have opening_eq : finding.opening = unknownVariable.opening := opening_eq_of_message_eq same
  cases finding with
  | unknownVariable => exact Or.inl rfl
  | missing message => exact Or.inr ⟨message, rfl⟩
  | _ => simp [opening] at opening_eq

/-- Only a value of another type is said to be one, but for what is missing. -/
theorem eq_invalidValue_of_message_eq {finding : Finding} {type : ValueType}
    (same : finding.message = "Invalid value, expected " ++ type.name) :
    finding = .invalidValue type ∨ ∃ message, finding = .missing message := by
  have opening_eq : finding.opening = (invalidValue type).opening := opening_eq_of_message_eq same
  cases finding with
  | invalidValue other =>
      have types : other = type := by
        cases other <;> cases type <;> first | rfl | exact absurd same (by decide)
      exact Or.inl (congrArg _ types)
  | missing message => exact Or.inr ⟨message, rfl⟩
  | _ => simp [opening] at opening_eq

end SearchQuery.Finding
