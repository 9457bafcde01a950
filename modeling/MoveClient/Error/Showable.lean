import MoveClient.Codec.Emission

/-!
Failures that can be shown.

A message names the value or the type that the failure is about. A number in it with more than
`maxShownDigits` digits cannot be shown: then there is no message, and the failure is just that.
-/

namespace MoveClient

namespace TypeTag

mutual

/-- Whether the printed form can be shown: no type parameter in it has too long a number. -/
def isShowable : TypeTag → Bool
  | .primitive _ => true
  | .vector element => element.isShowable
  | .struct _ _ _ arguments => areShowable arguments
  | .generic index => index.natAbs < 10 ^ Emission.maxShownDigits
  | .reference target => target.isShowable

/-- Whether all types can be shown. -/
def areShowable : List TypeTag → Bool
  | [] => true
  | first :: rest => first.isShowable && areShowable rest

end

end TypeTag

namespace Value

mutual

/-- Whether the value can be shown: no integer and no type in it has too many digits. -/
def isShowable : Value → Bool
  | .int number => number.natAbs < 10 ^ Emission.maxShownDigits
  | .list items | .tuple items => areShowable items
  | .map entries => entriesAreShowable entries
  | .type tag => tag.isShowable
  | _ => true

/-- Whether all values can be shown. -/
def areShowable : List Value → Bool
  | [] => true
  | item :: rest => item.isShowable && areShowable rest

/-- Whether the keys and values of all entries can be shown. -/
def entriesAreShowable : List (Value × Value) → Bool
  | [] => true
  | (key, value) :: rest => key.isShowable && value.isShowable && entriesAreShowable rest

end

end Value

namespace Error

/-- Whether what the message names can be shown. -/
def isShowable : Error → Bool
  | .range (.notBool value) | .range (.notEncodable value _) | .range (.negativeExpiration value)
  | .parse (.notBool value) => value.isShowable
  | .range (.unboundTypeParameter index _) => TypeTag.isShowable (.generic index)
  | .codec (.noWireForm tag) | .parse (.nullVector tag) | .parse (.notList tag _)
  | .parse (.notText tag _) | .unsupported (.argumentType tag) => tag.isShowable
  | _ => true

/-- The failure as it is stated: one that cannot be shown is that of the number in it. -/
def stated (error : Error) : Error :=
  if error.isShowable then error else .numberTooLong

theorem stated_of_isShowable
    {error : Error}
    (shown : error.isShowable = true) :
    error.stated = error :=
  if_pos shown

theorem stated_of_not_isShowable
    {error : Error}
    (hidden : ¬ error.isShowable = true) :
    error.stated = .numberTooLong :=
  if_neg hidden

end Error

end MoveClient
