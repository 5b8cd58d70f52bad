import SingleFlight.Text.Utf8

/-!
Base64: three bytes are written as four characters, and a group that is not full is filled up with
equals signs.
-/

namespace SingleFlight.Text.Base64

def alphabet : List Char := "ABCDEFGHIJKLMNOPQRSTUVWXYZabcdefghijklmnopqrstuvwxyz0123456789+/".toList

/-- The character for six bits. -/
def sextet (value : Nat) : Char := alphabet.getD (value % 64) '='

def encode : List Byte → List Char
  | [] => []
  | [first] => [sextet (first.toNat / 4), sextet (first.toNat * 16), '=', '=']
  | [first, second] =>
    [sextet (first.toNat / 4), sextet (first.toNat * 16 + second.toNat / 16), sextet (second.toNat * 4), '=']
  | first :: second :: third :: rest =>
    sextet (first.toNat / 4) :: sextet (first.toNat * 16 + second.toNat / 16) ::
      sextet (second.toNat * 4 + third.toNat / 64) :: sextet third.toNat :: encode rest

end SingleFlight.Text.Base64
