namespace AccountLink.Text

-- The lines that line feeds end, and what stands behind the last of them, if anything does. A carriage
-- return before a line feed belongs to the end of the line.
def lines : List Char → List (List Char)
  | [] => []
  | '\n' :: rest => [] :: lines rest
  | '\r' :: '\n' :: rest => [] :: lines rest
  | c :: rest =>
    match lines rest with
    | [] => [[c]]
    | line :: others => (c :: line) :: others

end AccountLink.Text
