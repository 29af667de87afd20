namespace FractionCalculator.Text

-- The pieces between the marks, one more than there are marks.
def pieces (mark : Char) : List Char → List (List Char)
  | [] => [[]]
  | c :: rest =>
    if c = mark then [] :: pieces mark rest
    else
      match pieces mark rest with
      | [] => [[c]]
      | piece :: others => (c :: piece) :: others

-- What stands before the first mark and what stands behind it.
def cut (mark : Char) (cs : List Char) : Option (List Char × List Char) :=
  match cs.dropWhile (· != mark) with
  | [] => none
  | _ :: rest => some (cs.takeWhile (· != mark), rest)

theorem length_cut_lt {mark : Char} {cs before after : List Char}
    (h : cut mark cs = some (before, after)) : after.length < cs.length := by
  rw [cut] at h
  split at h
  · cases h
  · rename_i c rest hdrop
    cases h
    have hlength := (List.dropWhile_sublist (· != mark) (l := cs)).length_le
    rw [hdrop, List.length_cons] at hlength
    omega

-- The lines of a text. Only a line feed ends a line, and an unfinished last line counts.
def lines (text : String) : List String :=
  let parts := pieces '\n' text.toList
  let ended := if parts.getLast? = some [] then parts.dropLast else parts
  ended.map String.ofList

-- A carriage return, alone or with the line feed after it, becomes a line feed.
def unifyLineEnds : List Char → List Char
  | '\r' :: '\n' :: rest => '\n' :: unifyLineEnds rest
  | '\r' :: rest => '\n' :: unifyLineEnds rest
  | c :: rest => c :: unifyLineEnds rest
  | [] => []

end FractionCalculator.Text
