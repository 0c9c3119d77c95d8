import GuestNet.Bytes

/-! Bytes as text of sixty-four characters, six bits each, filled up with `=` to whole groups of
four. -/
namespace GuestNet.Text.Base64

def alphabet : List Char :=
  "ABCDEFGHIJKLMNOPQRSTUVWXYZabcdefghijklmnopqrstuvwxyz0123456789+/".toList

/-- The character for the six bits above the lowest `shift` bits of a number. -/
def sextet (n shift : Nat) : Char := alphabet.getD ((n >>> shift) % 64) '='

def encode : Bytes → List Char
  | [] => []
  | [a] =>
    let n := a.toNat <<< 16
    [sextet n 18, sextet n 12, '=', '=']
  | [a, b] =>
    let n := a.toNat <<< 16 + b.toNat <<< 8
    [sextet n 18, sextet n 12, sextet n 6, '=']
  | a :: b :: c :: rest =>
    let n := a.toNat <<< 16 + b.toNat <<< 8 + c.toNat
    [sextet n 18, sextet n 12, sextet n 6, sextet n 0] ++ encode rest

end GuestNet.Text.Base64
