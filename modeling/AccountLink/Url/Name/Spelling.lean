import AccountLink.Text.Lowercase
import AccountLink.Text.Unseen
import AccountLink.Url.Name.Replaced
import AccountLink.Url.Name.Expanded

namespace AccountLink.Url.Name

open AccountLink.Text

def ignoredRanges : Ranges := [
  (0xad,0xad),(0x34f,0x34f),(0x115f,0x1160),(0x17b4,0x17b5),(0x180b,0x180f),(0x200b,0x200b),
  (0x2060,0x2064),(0x206a,0x206f),(0x3164,0x3164),(0xfe00,0xfe0f),(0xfeff,0xfeff),(0xffa0,0xffa0),
  (0x1bca0,0x1bca3),(0x1d173,0x1d17a),(0xe0100,0xe01ef)]

-- Letters that stay although they have a lower case, and joiners, which stay although they are not seen.
def keptRanges : Ranges := [
  (0x13a0,0x13f5),(0x200c,0x200d)]

-- Characters that no name holds although they are seen.
def refusedRanges : Ranges := [
  (0x2024,0x2026),(0x2488,0x249b),(0x2ff0,0x2fff),(0x31ef,0x31ef),(0x33c2,0x33c2),(0x33c7,0x33c7),
  (0x33d8,0x33d8),(0xfe12,0xfe12),(0xfe19,0xfe19),(0xfe30,0xfe30),(0xfe52,0xfe52),(0xfffc,0xfffd),
  (0x1f100,0x1f100)]

def replacement? (n : Nat) : Option (List Nat) :=
  match shiftedRuns.find? fun (first,last,_) => first ≤ n && n ≤ last with
  | some (first,_,target) => some [target + (n - first)]
  | none =>
    ((replacedRuns ++ ideographRuns).findSome? fun (first,targets) =>
      if first ≤ n then (targets[n - first]?).map ([·]) else none) <|>
    expandedRuns.findSome? fun (first,targets) => if first ≤ n then targets[n - first]? else none

def spell (c : Char) : Option (List Char) :=
  if c.toNat < 128 then some [c.toLower]
  else if ignoredRanges.holds c then some []
  else if keptRanges.holds c then some [c]
  else match replacement? c.toNat with
    | some targets => some (targets.map Char.ofNat)
    | none => if isUnseen c || refusedRanges.holds c then none else some (lowerChar c)

end AccountLink.Url.Name
