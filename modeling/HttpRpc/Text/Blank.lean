/-!
# White space

`isBlank` is the Unicode property White_Space, and `trim` removes it from both ends of a text.
-/

namespace HttpRpc.Text

/-- The Unicode property White_Space. -/
def isBlank (c : Char) : Bool :=
  let n := c.toNat
  (9 ≤ n && n ≤ 13) || n == 0x20 || n == 0x85 || n == 0xA0 || n == 0x1680 ||
    (0x2000 ≤ n && n ≤ 0x200A) || n == 0x2028 || n == 0x2029 || n == 0x202F ||
    n == 0x205F || n == 0x3000

/-- The text without the longest suffix whose characters all pass the test. -/
def dropWhileEnd (p : Char → Bool) (text : List Char) : List Char :=
  (text.reverse.dropWhile p).reverse

/-- The text without the characters at both ends that pass the test. -/
def trimMatches (p : Char → Bool) (text : List Char) : List Char :=
  dropWhileEnd p (text.dropWhile p)

/-- The text without white space at its ends. -/
def trim (text : List Char) : List Char :=
  trimMatches isBlank text

end HttpRpc.Text
