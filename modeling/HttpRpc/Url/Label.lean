import HttpRpc.Text.Direction
import HttpRpc.Text.Variant
import HttpRpc.Url.Punycode

/-!
# Labels

A domain name is a row of labels. A label with characters beyond ASCII is spelled as an encoded one
behind `xn--`. Of the names that differ only in variants of characters there is one spelling:
`domain?` gives the plain composed form and encodes its labels, and a label that comes encoded must
stand for a name in that form.
-/

namespace HttpRpc.Url.Label

open HttpRpc.Text

/-- Whether the character may stand in a label: it is its own plain form. -/
def isAllowed (c : Char) : Bool :=
  plain? c == some [c]

/-- Whether all characters are of ASCII. -/
def isBasic (label : List Char) : Bool :=
  label.all (·.toNat < 0x80)

/-- The letters in front of an encoded label. -/
def encodedMark : List Char := "xn--".toList

/-- Whether an encoded label may stand for the name: it holds a character beyond ASCII and only
allowed ones, is composed, starts neither with a mark nor as an encoded label, and its joiners fit.
-/
def isName (name : List Char) : Bool :=
  !isBasic name && name.all isAllowed && isComposed name && !name.head?.any isMark &&
    !encodedMark.isPrefixOf name && joinersFit [] name

/-- The name that a label stands for: itself, unless it is encoded. -/
def decode? (label : List Char) : Option (List Char) :=
  if !isBasic label then (some label).filter isName
  else if encodedMark.isPrefixOf label then
    (Punycode.decode? (label.drop encodedMark.length)).filter isName
  else some label

/-- The label in ASCII. -/
def encode (label : List Char) : List Char :=
  if isBasic label then label else encodedMark ++ Punycode.encode label

/-- The spelling of a domain name in ASCII. Its labels all stand for names, which keep their order.
-/
def domain? (text : List Char) : Option (List Char) := do
  let forms ← text.mapM plain?
  let labels := splitOn '.' (composed forms.flatten)
  let names ← labels.mapM decode?
  if areOrdered names then some (['.'].intercalate (labels.map encode)) else none

end HttpRpc.Url.Label
