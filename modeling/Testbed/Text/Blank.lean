-- White space in typed text: the characters that separate words, trimming
-- at both ends, and the cut of a line into its words.

namespace Testbed.Text

/-! ## The characters -/

/-- The code points with the Unicode property White_Space, as closed ranges. -/
def blankRanges : List (Nat × Nat) :=
  [(0x09, 0x0D), (0x20, 0x20), (0x85, 0x85), (0xA0, 0xA0), (0x1680, 0x1680),
   (0x2000, 0x200A), (0x2028, 0x2029), (0x202F, 0x202F), (0x205F, 0x205F), (0x3000, 0x3000)]

/-- A blank is a character with the Unicode property White_Space. -/
def isBlank (c : Char) : Bool :=
  blankRanges.any fun r => r.1 ≤ c.toNat && c.toNat ≤ r.2

/-! ## Trimming -/

def trimLeft (cs : List Char) : List Char := cs.dropWhile isBlank

def trimRight (cs : List Char) : List Char := (cs.reverse.dropWhile isBlank).reverse

def trim (s : String) : String := String.ofList (trimRight (trimLeft s.toList))

/-! ## Words -/

/-- Puts a character in front of the first word. -/
def consWord (c : Char) : List (List Char) → List (List Char)
  | [] => [[c]]
  | w :: ws => (c :: w) :: ws

/-- The longest runs without a blank, each kept with the answer to whether a run
begins right here. -/
def runs : List Char → Bool × List (List Char)
  | [] => (false, [])
  | c :: cs =>
    let (touching, ws) := runs cs
    if isBlank c then (false, ws)
    else if touching then (true, consWord c ws)
    else (true, [c] :: ws)

/-- The words of a text: its longest runs without a blank, in order. -/
def words (s : String) : List String := (runs s.toList).2.map String.ofList

/-- A trimmed line as its first word and the trimmed text after that word. -/
def cutWord (s : String) : String × String :=
  let word := s.toList.takeWhile (!isBlank ·)
  let rest := s.toList.dropWhile (!isBlank ·)
  (String.ofList word, trim (String.ofList rest))

def join (separator : String) (parts : List String) : String := separator.intercalate parts

end Testbed.Text
