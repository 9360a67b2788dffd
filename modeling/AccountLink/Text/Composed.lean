import AccountLink.Text.CombiningClass
import AccountLink.Text.Composites

-- Texts with as few characters as say the same: marks in the order of their classes, and then composites in the
-- place of their parts. Only composites that can come out are taken apart before, so `composed` is the normal
-- form NFC on texts without those that cannot.

namespace AccountLink.Text

def partsWithin : Nat → Char → List Char
  | 0,c => [c]
  | steps + 1,c =>
    match parts? c with
    | some (first,second) => partsWithin steps first ++ [second]
    | none => [c]

-- The parts of a character that have none themselves; there are four at most.
def decompose (c : Char) : List Char := partsWithin 3 c

def insertMark (c : Char) : List Char → List Char
  | [] => [c]
  | d :: rest =>
    if 0 < combiningClass d ∧ combiningClass d < combiningClass c then d :: insertMark c rest
    else c :: d :: rest

def orderMarks (cs : List Char) : List Char := cs.foldr insertMark []

-- Composes a base with what follows it, as long as no mark of the same class comes between.
def composeFrom (base : Char) (marks : List Char) : List Char → List Char
  | [] => base :: marks
  | c :: rest =>
    let class_ := combiningClass c
    let near := marks.all fun mark => combiningClass mark < class_
    match if near then composite? base c else none with
    | some whole => composeFrom whole marks rest
    | none =>
      if class_ = 0 then base :: marks ++ composeFrom c [] rest
      else composeFrom base (marks ++ [c]) rest

def compose : List Char → List Char
  | [] => []
  | c :: rest => if combiningClass c = 0 then composeFrom c [] rest else c :: compose rest

def composed (cs : List Char) : List Char := compose (orderMarks (cs.flatMap decompose))

end AccountLink.Text
