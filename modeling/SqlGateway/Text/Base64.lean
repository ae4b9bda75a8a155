import SqlGateway.Text.Bytes

namespace SqlGateway
namespace Bytes

/-!
Bytes as printable text: three bytes become four characters of a 64 letter
alphabet, and a last group of one or two bytes is filled up with equals signs.
-/

/-- The letter for a value below 64. -/
def base64Char (value : Nat) : Char :=
  if value < 26 then Char.ofNat (0x41 + value)
  else if value < 52 then Char.ofNat (0x61 + (value - 26))
  else if value < 62 then Char.ofNat (0x30 + (value - 52))
  else if value = 62 then '+'
  else '/'

def base64Chars : Bytes → List Char
  | [] => []
  | [first] =>
    let group := first.toNat * 16
    [base64Char (group / 64), base64Char (group % 64), '=', '=']
  | [first, second] =>
    let group := (first.toNat * 256 + second.toNat) * 4
    [base64Char (group / 4096), base64Char (group / 64 % 64), base64Char (group % 64), '=']
  | first :: second :: third :: rest =>
    let group := (first.toNat * 256 + second.toNat) * 256 + third.toNat
    base64Char (group / 262144) :: base64Char (group / 4096 % 64) ::
      base64Char (group / 64 % 64) :: base64Char (group % 64) :: base64Chars rest

end Bytes
end SqlGateway
