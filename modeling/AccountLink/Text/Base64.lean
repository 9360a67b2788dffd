namespace AccountLink.Text

def base64Digit (n : Nat) : Char :=
  if n < 26 then Char.ofNat (n + 'A'.toNat)
  else if n < 52 then Char.ofNat (n - 26 + 'a'.toNat)
  else if n < 62 then Char.ofNat (n - 52 + '0'.toNat)
  else if n = 62 then '+'
  else '/'

def base64 : List UInt8 → List Char
  | a :: b :: c :: rest =>
    let n := a.toNat * 65536 + b.toNat * 256 + c.toNat
    [n / 262144,n / 4096 % 64,n / 64 % 64,n % 64].map base64Digit ++ base64 rest
  | [a,b] =>
    let n := a.toNat * 1024 + b.toNat * 4
    [n / 4096,n / 64 % 64,n % 64].map base64Digit ++ ['=']
  | [a] =>
    let n := a.toNat * 16
    [n / 64,n % 64].map base64Digit ++ ['=','=']
  | [] => []

end AccountLink.Text
