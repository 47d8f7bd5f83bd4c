/-!
# Sets of characters

A set is given by the code points at which membership changes, in ascending order; below the first
one nothing is a member.
-/

namespace ProxyLink.Text

/-- Whether `n` is in the set that starts as `member` and changes at each entry of the list. -/
def memberAt (n : Nat) (member : Bool) : List Nat → Bool
  | [] => member
  | change :: rest => if n < change then member else memberAt n (!member) rest

end ProxyLink.Text
