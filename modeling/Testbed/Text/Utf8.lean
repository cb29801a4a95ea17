-- Bytes as UTF-8 text. A reader takes one byte at a time and gives, in order,
-- each character it completes and a gap for each run of bytes that begins no
-- character. Strict reading allows no gap; lossy reading fills it in.

namespace Testbed.Text.Utf8

/-! ## The reader -/

/-- Where the reader stands: between characters, or inside one with its bits so far, the
number of bytes still owed, and the bounds of the next of them. -/
inductive Progress where
  | between
  | inside (bits owed low high : Nat)

/-- What the first byte of a character decides. -/
inductive Opening where
  | whole (c : Char)
  | more (p : Progress)
  | stray

/-- The lead bytes and the bounds they set on the byte after them. -/
def opening (b : Nat) : Opening :=
  if b < 0x80 then .whole (Char.ofNat b)
  else if b < 0xC2 then .stray
  else if b < 0xE0 then .more (.inside (b - 0xC0) 1 0x80 0xBF)
  else if b = 0xE0 then .more (.inside 0 2 0xA0 0xBF)
  else if b = 0xED then .more (.inside 0xD 2 0x80 0x9F)
  else if b < 0xF0 then .more (.inside (b - 0xE0) 2 0x80 0xBF)
  else if b = 0xF0 then .more (.inside 0 3 0x90 0xBF)
  else if b < 0xF4 then .more (.inside (b - 0xF0) 3 0x80 0xBF)
  else if b = 0xF4 then .more (.inside 4 3 0x80 0x8F)
  else .stray

/-- The characters of a byte sequence, with `none` for every run of bytes that cannot be
continued to a character. A byte that breaks off a character is read again as a lead byte. -/
def scan : Progress → List UInt8 → List (Option Char)
  | .between, [] => []
  | .inside .., [] => [none]
  | .between, b :: bs =>
    match opening b.toNat with
    | .whole c => some c :: scan .between bs
    | .more p => scan p bs
    | .stray => none :: scan .between bs
  | .inside bits owed low high, b :: bs =>
    if low ≤ b.toNat ∧ b.toNat ≤ high then
      let bits' := bits * 64 + b.toNat % 64
      if owed ≤ 1 then some (Char.ofNat bits') :: scan .between bs
      else scan (.inside bits' (owed - 1) 0x80 0xBF) bs
    else
      match opening b.toNat with
      | .whole c => none :: some c :: scan .between bs
      | .more p => none :: scan p bs
      | .stray => none :: none :: scan .between bs

/-! ## Strict and lossy reading -/

/-- The text of a byte sequence that is UTF-8 from its first byte to its last. -/
def decode? (bytes : List UInt8) : Option String :=
  ((scan .between bytes).mapM id).map String.ofList

/-- The text of any byte sequence, with U+FFFD in place of each gap. -/
def decodeLossy (bytes : List UInt8) : String :=
  String.ofList ((scan .between bytes).map (·.getD '\uFFFD'))

def encode (s : String) : List UInt8 := s.toUTF8.toList

example : decodeLossy [0x20, 0xFF, 0x41, 0xE9, 0x20, 0x0A] = " \uFFFDA\uFFFD \n" := by decide
example : decode? [0xE6, 0x97, 0xA5] = some "日" := by decide
example : decode? [0x23, 0xE6, 0x97] = none := by decide

end Testbed.Text.Utf8
