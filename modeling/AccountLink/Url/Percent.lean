import AccountLink.Text.Bytes
import AccountLink.Text.Hexadecimal

-- Percent-encoding. Which characters are encoded depends on the part of an address that they stand in; what is
-- not printable ASCII always is.

namespace AccountLink.Url

open AccountLink.Text

def upperHexDigit (n : Nat) : Char := (hexDigit n).toUpper

def percentByte (b : UInt8) : List Char := ['%',upperHexDigit (b.toNat / 16),upperHexDigit (b.toNat % 16)]

def percentEncode (set : List Char) (cs : List Char) : List Char :=
  cs.flatMap fun c =>
    if c.toNat < 32 || 126 < c.toNat || set.contains c then (encode [c]).flatMap percentByte else [c]

def fragmentSet : List Char := [' ','"','<','>','\x60']

def querySet : List Char := [' ','"','#','<','>','\'']

def pathSet : List Char := fragmentSet ++ ['#','?','{','}']

def userSet : List Char := pathSet ++ ['/',':',';','=','@','[','\\',']','^','|']

def percentDecode : List Char → List UInt8
  | [] => []
  | '%' :: a :: b :: rest =>
    match hexValue a,hexValue b with
    | some x,some y => UInt8.ofNat (x * 16 + y) :: percentDecode rest
    | _,_ => encode ['%'] ++ percentDecode (a :: b :: rest)
  | c :: rest => encode [c] ++ percentDecode rest

end AccountLink.Url
