import AccountLink.Text.Ranges

namespace AccountLink.Text

-- The characters with the property White_Space.
def blankRanges : Ranges := [
  (0x9,0xd),(0x20,0x20),(0x85,0x85),(0xa0,0xa0),(0x1680,0x1680),(0x2000,0x200a),(0x2028,0x2029),
  (0x202f,0x202f),(0x205f,0x205f),(0x3000,0x3000)]

def isBlank (c : Char) : Bool := blankRanges.holds c

def trimRight (p : Char → Bool) (cs : List Char) : List Char :=
  (cs.reverse.dropWhile p).reverse

def trim (cs : List Char) : List Char := trimRight isBlank (cs.dropWhile isBlank)

end AccountLink.Text
