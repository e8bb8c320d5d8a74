import HttpRpc.Text.Digits
import HttpRpc.Text.Split

/-!
# Request vectors

A request vector names a place in a tree of calls: a root for the call that started it all, and a
number for each level below. Its text is the root and the numbers in hexadecimal, with points
between.
-/

namespace HttpRpc

open HttpRpc.Text

/-- Why a text or a root makes no request vector. -/
inductive RequestVectorError where
  | empty
  | emptyRoot (input : String)
  | emptySegment (input : String)
  | invalidRoot (root : String)
  | invalidSuffix (segment : String)
deriving DecidableEq, Repr

/-- The wording of an error. -/
def RequestVectorError.message : RequestVectorError → String
  | empty => "request vector is empty"
  | emptyRoot input => "request vector \x60" ++ input ++ "\x60 has an empty root"
  | emptySegment input => "request vector \x60" ++ input ++ "\x60 has an empty segment"
  | invalidRoot root => "invalid request vector root \x60" ++ root ++ "\x60"
  | invalidSuffix segment => "invalid request vector segment \x60" ++ segment ++ "\x60"

/-- The name of the kind of an error. -/
def RequestVectorError.kind : RequestVectorError → String
  | empty => "Empty"
  | emptyRoot _ => "EmptyRoot"
  | emptySegment _ => "EmptySegment"
  | invalidRoot _ => "InvalidRoot"
  | invalidSuffix _ => "InvalidSuffix"

/-- A root and the numbers of the levels below it. -/
structure RequestVector where
  root : String
  suffixes : List UInt64
deriving DecidableEq, Repr

namespace RequestVector

/-- Whether the character is visible ASCII. -/
def isVisible (c : Char) : Bool :=
  0x21 ≤ c.toNat && c.toNat ≤ 0x7E

/-- A root that can be told from what follows it. -/
def checkRoot (root : String) : Except RequestVectorError String :=
  if root.isEmpty then .error (.emptyRoot root)
  else if root.toList.all fun c => isVisible c && c != '.' then .ok root
  else .error (.invalidRoot root)

/-- A vector of a root and numbers below it. -/
def fromParts (root : String) (suffixes : List UInt64) : Except RequestVectorError RequestVector :=
  (checkRoot root).map fun root => ⟨root, suffixes⟩

/-- A vector that is only a root. -/
def new (root : String) : Except RequestVectorError RequestVector :=
  fromParts root []

/-- The number of a level. -/
def parseSuffix (input : String) (segment : List Char) : Except RequestVectorError UInt64 :=
  if segment.isEmpty then .error (.emptySegment input)
  else match if segment.all isHexDigit then value? 16 segment else none with
    | none => .error (.invalidSuffix (String.ofList segment))
    | some n =>
      if n < UInt64.size then .ok (UInt64.ofNat n)
      else .error (.invalidSuffix (String.ofList segment))

/-- Reads the text of a vector. -/
def parse (input : String) : Except RequestVectorError RequestVector :=
  if input.isEmpty then .error .empty
  else match splitOn '.' input.toList with
    | [] => .error .empty
    | root :: segments => do
      if root.isEmpty then throw (.emptyRoot input)
      let root ← checkRoot (String.ofList root)
      let suffixes ← segments.mapM (parseSuffix input)
      return ⟨root, suffixes⟩

/-- The text of a vector. -/
def render (vector : RequestVector) : String :=
  vector.root ++
    String.join (vector.suffixes.map fun suffix => "." ++ hexadecimal suffix.toNat)

/-- The text of the vector of a root and numbers below it. -/
def build (root : String) (suffixes : List UInt64) : Except RequestVectorError String :=
  (fromParts root suffixes).map render

/-- The number of levels below the root. -/
def depth (vector : RequestVector) : Nat := vector.suffixes.length

/-- The vector one level below, under a number. -/
def child (vector : RequestVector) (number : UInt64) : RequestVector :=
  { vector with suffixes := vector.suffixes ++ [number] }

/-- The vector one level above, unless this one is a root. -/
def parent? (vector : RequestVector) : Option RequestVector :=
  if vector.suffixes.isEmpty then none
  else some { vector with suffixes := vector.suffixes.dropLast }

/-- The root made up for the `n`-th request that came without one: 32 hexadecimal digits. -/
def freshRoot (n : Nat) : RequestVector :=
  let digits := Nat.toDigits 16 (n % Nat.pow 2 128)
  ⟨String.ofList (List.replicate (32 - digits.length) '0' ++ digits), []⟩

end RequestVector

/-- A source of numbers for the calls that go out: the number of the next one. -/
structure VectorSource where
  next : UInt64
deriving DecidableEq, Repr

namespace VectorSource

/-- A source that has given no number yet; it counts from one. -/
def new : VectorSource := ⟨1⟩

/-- The child of a vector under the next number, and the source after it. -/
def nextChild (source : VectorSource) (parent : RequestVector) : RequestVector × VectorSource :=
  (parent.child source.next, ⟨source.next + 1⟩)

end VectorSource

end HttpRpc
