/-! Numbers in hexadecimal digits of either case. -/
namespace Packrat.Hex

def value? (c : Char) : Option Nat :=
  if '0' ≤ c && c ≤ '9' then some (c.toNat - 48)
  else if 'a' ≤ c && c ≤ 'f' then some (c.toNat - 87)
  else if 'A' ≤ c && c ≤ 'F' then some (c.toNat - 55)
  else none

def number? (digits : List Char) : Option Nat :=
  digits.foldlM (fun n c => (value? c).map (n * 16 + ·)) 0

end Packrat.Hex
