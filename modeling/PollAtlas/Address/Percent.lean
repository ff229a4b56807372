import PollAtlas.Number.Hex

/-!
# Percent-encoding

A character that may not stand in a part of an address is written as the bytes of its
UTF-8 form, each with a percent sign and two hexadecimal digits. Which characters may
stand depends on the part.

* `percentEncode`, `percentDecode?`: a text encoded and decoded.
* `Part.keeps`: the characters that a part keeps.
-/

namespace PollAtlas.Address

/-- A byte with a percent sign and two digits. -/
def percentByte (b : UInt8) : List Char :=
  ['%', upperHexDigit (b.toNat / 16), upperHexDigit (b.toNat % 16)]

/-- The bytes of a text in UTF-8. -/
def utf8Bytes (cs : List Char) : List UInt8 := cs.flatMap String.utf8EncodeChar

/-- A text whose characters are kept or encoded. -/
def percentEncode (keeps : Char → Bool) (cs : List Char) : List Char :=
  cs.flatMap fun c => if keeps c then [c] else (utf8Bytes [c]).flatMap percentByte

/-- The bytes that an encoded text stands for. A percent sign without two digits after it
stands for itself. -/
def percentDecode : List Char → List UInt8
  | '%' :: a :: b :: rest =>
    match hexDigit? a, hexDigit? b with
    | some a, some b => UInt8.ofNat (a * 16 + b) :: percentDecode rest
    | _, _ => utf8Bytes ['%'] ++ percentDecode (a :: b :: rest)
  | c :: rest => utf8Bytes [c] ++ percentDecode rest
  | [] => []

/-- The text that an encoded text stands for, if its bytes are one. -/
def percentDecode? (cs : List Char) : Option String :=
  String.fromUTF8? ⟨(percentDecode cs).toArray⟩

/-! ## Parts of an address -/

/-- A printable character of ASCII. -/
def isPrintable (c : Char) : Bool := ' ' ≤ c && c ≤ '~'

/-- The parts of an address, as far as they differ in what they keep. -/
inductive Part where
  /-- What is not looked into: only controls are encoded. -/
  | plain
  | fragment
  | query (special : Bool)
  | path
  /-- A segment on its own, in which no separator may stand. -/
  | segment (special : Bool)
  | credentials

namespace Part

def encodedInFragment : List Char := [' ', '"', '<', '>', '\x60']

def encodedInPath : List Char := encodedInFragment ++ ['#', '?', '\x7b', '\x7d']

/-- The printable characters that are encoded in a part. -/
def encoded : Part → List Char
  | plain => []
  | fragment => encodedInFragment
  | query special => [' ', '"', '#', '<', '>'] ++ (if special then ['\x27'] else [])
  | path => encodedInPath
  | segment special => encodedInPath ++ ['/', '%'] ++ (if special then ['\\'] else [])
  | credentials => encodedInPath ++ ['/', ':', ';', '=', '@', '[', '\\', ']', '^', '|']

/-- The characters that a part keeps. -/
def keeps (part : Part) (c : Char) : Bool := isPrintable c && !part.encoded.contains c

/-- A text as it stands in a part. -/
def encode (part : Part) (cs : List Char) : List Char := percentEncode part.keeps cs

end Part

end PollAtlas.Address
