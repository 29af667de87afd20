namespace FractionCalculator.Text

-- The characters that separate words and that trimming removes.
def isBlank (c : Char) : Bool :=
  let n := c.toNat
  (0x09 ≤ n && n ≤ 0x0D) || (0x1C ≤ n && n ≤ 0x20) || n == 0x85 || n == 0xA0 || n == 0x1680 ||
    (0x2000 ≤ n && n ≤ 0x200A) || n == 0x2028 || n == 0x2029 || n == 0x202F || n == 0x205F ||
    n == 0x3000

def trimRight (cs : List Char) : List Char :=
  (cs.reverse.dropWhile isBlank).reverse

def trimEnds (cs : List Char) : List Char :=
  trimRight (cs.dropWhile isBlank)

def trim (text : String) : String :=
  String.ofList (trimEnds text.toList)

-- Dropping two stretches with a character between them shortens a text.
theorem length_dropWhile_lt {p q : Char → Bool} {cs rest : List Char} {c : Char}
    (h : cs.dropWhile p = c :: rest) : (rest.dropWhile q).length < cs.length := by
  have hcs := (List.dropWhile_sublist p (l := cs)).length_le
  have hrest := (List.dropWhile_sublist q (l := rest)).length_le
  rw [h, List.length_cons] at hcs
  omega

-- The maximal runs of characters that are not blank, in order.
def runs (cs : List Char) : List (List Char) :=
  match _h : cs.dropWhile isBlank with
  | [] => []
  | c :: rest =>
    (c :: rest.takeWhile fun d => !isBlank d) :: runs (rest.dropWhile fun d => !isBlank d)
termination_by cs.length
decreasing_by exact length_dropWhile_lt ‹_›

def words (text : String) : List String :=
  (runs text.toList).map String.ofList

end FractionCalculator.Text
