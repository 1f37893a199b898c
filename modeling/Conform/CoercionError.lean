import Conform.Rule

/-!
# Coercion errors

Why a value is refused, or a type cannot be built.

* `ConversionFault` — why a coercion function has no result.
* `Misuse` — what is wrong with the way a type is put together.
* `CoercionError` — all causes; `CoercionError.message` their text.
* `CoercionError.reason` — the short form: the predicate that failed, where there is one.
-/

namespace Conform

/-- Why a coercion function has no result for its input. -/
inductive ConversionFault
  | impossible (target : Primitive)
  | unreadable (target : Primitive)
  | notFinite
  | notAName
  | other (text : String)

/-- The text of a conversion fault, given the input. -/
def ConversionFault.message (input : Value) : ConversionFault → String
  | .impossible target =>
    let source := if input.isNil then "nil" else input.className
    "can't convert " ++ source ++ " into " ++ target.name
  | .unreadable target => "invalid value for " ++ target.name ++ "(): " ++ input.display
  | .notFinite => input.display ++ " cannot be an Integer"
  | .notAName => input.display ++ " is not a symbol nor a string"
  | .other text => text

/-- What is wrong with the way a type is put together; `name` is the name of the type. -/
inductive Misuse
  | rule (fault : RuleFault)
  | nilDefault (name : String)
  | noEnumValues
  | notAnArray (name : String)
  | notAHash (name : String)
  | notASchema (name : String)
  | notAMap (name : String)
  | invalidSuccess (value : Value) (name : String)
  | other (text : String)

/-- The text of a misuse. -/
def Misuse.message : Misuse → String
  | .rule fault => fault.message
  | .nilDefault name => "nil cannot be used as a default of " ++ name ++ ", use an optional type"
  | .noEnumValues => "an enum needs at least one value"
  | .notAnArray name => name ++ " is not an array type"
  | .notAHash name => name ++ " is not a hash type"
  | .notASchema name => name ++ " is not a hash schema"
  | .notAMap name => name ++ " is not a map type"
  | .invalidSuccess v name => "Invalid success value '" ++ v.display ++ "' for " ++ name
  | .other text => text

/-- The part of a hash that a map refuses: a key, or the value under a key. -/
inductive EntryPart
  | key (key : Value)
  | value (key value : Value)

/-- How a message names a part. -/
def EntryPart.text : EntryPart → String
  | .key k => "input key " ++ k.display
  | .value k v => "input value " ++ v.display ++ " for key " ++ k.display

/-- Why a value is refused or a type cannot be built. -/
inductive CoercionError
  | constraint (input : Value) (failure : RuleFailure)
  | typeMismatch (input : Value) (expected : Primitive)
  | coercion (input : Value) (fault : ConversionFault)
  | missingKey (key : Value)
  | unknownKeys (keys : List Value)
  | member (key : Value) (error : CoercionError)
  | entries (faults : List (EntryPart × CoercionError))
  | misuse (m : Misuse)
  | invalidDefault (value : Value) (name : String) (error : CoercionError)

namespace CoercionError

mutual

/-- The text of an error. -/
def message : CoercionError → String
  | .constraint input failure =>
    input.display ++ " violates constraints (" ++ failure.text ++ " failed)"
  | .typeMismatch input expected => input.display ++ " must be an instance of " ++ expected.name
  | .coercion input fault => fault.message input
  | .missingKey key => key.display ++ " is missing in Hash input"
  | .unknownKeys keys => "unexpected keys " ++ (Value.array keys).display ++ " in Hash input"
  | .member key error => "invalid value for key " ++ key.display ++ ": " ++ error.message
  | .entries faults => String.intercalate "\n" (entryMessages faults)
  | .misuse m => m.message
  | .invalidDefault value name error =>
    "default value " ++ value.display ++ " is invalid for " ++ name ++ ": " ++ error.message

/-- The texts of the faults of a map, one for each part: the part and the reason. -/
def entryMessages : List (EntryPart × CoercionError) → List String
  | [] => []
  | (part, .constraint _ failure) :: rest =>
    (part.text ++ " is invalid: " ++ failure.text) :: entryMessages rest
  | (part, error) :: rest => (part.text ++ " is invalid: " ++ error.message) :: entryMessages rest

end

/-- The short text of an error: of a violated constraint the predicates that failed. -/
def reason : CoercionError → String
  | .constraint _ failure => failure.text
  | e => e.message

/-- Whether the error is about one value rather than about keys or the type itself. -/
def isTypeError : CoercionError → Bool
  | .constraint .. => true
  | .typeMismatch .. => true
  | .coercion .. => true
  | _ => false

end CoercionError

end Conform
