import RelayGate.Bytes

/-!
# Base 58

Keys are shown in log lines in base 58: the bytes as one big-endian number, written with the digits
and letters that are hard to confuse, behind one `1` for each leading zero byte.
-/

namespace RelayGate.Base58

def alphabet : List Char :=
  "123456789ABCDEFGHJKLMNPQRSTUVWXYZabcdefghijkmnopqrstuvwxyz".toList

/-- The digits of `n` without leading zeros, put in front of `acc`, when `n < 58 ^ places`. -/
def digits : Nat → Nat → List Char → List Char
  | 0, _, acc => acc
  | places + 1, n, acc =>
    if n = 0 then acc else digits places (n / 58) (alphabet.getD (n % 58) '1' :: acc)

/-- The text of a byte string. Each byte needs fewer than two digits. -/
def encode (data : Bytes) : String :=
  String.ofList <|
    (data.takeWhile (· == 0)).map (fun _ => '1') ++ digits (2 * data.length) data.bigEndian []

end RelayGate.Base58
