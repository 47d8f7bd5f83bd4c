import ProxyLink.Property
import ProxyLink.Proofs.PeerError
import ProxyLink.Proofs.Text.Base64
import ProxyLink.Proofs.Text.Decimal

/-!
# Property texts read back

Main statement: `ofText?_toText`. A value of each type of property is read from the text that it is
written as.
-/

namespace ProxyLink

theorem ofText?_toText_duration (d : Duration) : Property.ofText? (Property.toText d) = some d := by
  change (Decimal.unsigned? (Decimal.ofNat d.nanoseconds).toList).bind Duration.ofNat? = some d
  rw [Decimal.unsigned?_ofNat]
  exact dif_pos d.inRange

theorem ofText?_toText_bytes (bytes : List UInt8) :
    Property.ofText? (Property.toText bytes) = some bytes := by
  change Base64.decode? (String.ofList (Base64.encode bytes)).toList = some bytes
  rw [String.toList_ofList, Base64.decode?_encode]

/-- A value of a property is read from the text that it is written as. -/
theorem ofText?_toText (type : ValueType) (value : type.Value) :
    Property.ofText? (Property.toText value) = some value := by
  cases type with
  | string => rfl
  | bool => cases value <;> rfl
  | int64 => exact Decimal.int64?_ofInt64 value
  | duration => exact ofText?_toText_duration value
  | bytes => exact ofText?_toText_bytes value
  | error => exact PeerError.ofText?_toText value

end ProxyLink
