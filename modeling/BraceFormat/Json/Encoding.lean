import BraceFormat.Text.Surrogate

/-!
The code points that the bytes of a JSON document spell. A document begins with a character of
ASCII, so zeros among its first bytes tell that it is written in units of two or four bytes, and in
which order these come; any other document is in UTF-8, perhaps with a byte order mark. Units of two
or four bytes may spell halves of surrogate pairs, which are kept.
-/

set_option autoImplicit false
set_option relaxedAutoImplicit false

namespace BraceFormat.Json

inductive ByteOrder
  | big
  | little
deriving DecidableEq

inductive Encoding
  | utf8
  | utf16 (order : ByteOrder)
  | utf32 (order : ByteOrder)
deriving DecidableEq

/-- The encoding that the first bytes of a document tell. -/
def Encoding.ofBytes : List Nat → Encoding
  | first :: second :: third :: fourth :: _ =>
    if first = 0 then if second = 0 then utf32 .big else utf16 .big
    else if second = 0 then if third = 0 ∧ fourth = 0 then utf32 .little else utf16 .little
    else utf8
  | [first, second] =>
    if first = 0 then utf16 .big else if second = 0 then utf16 .little else utf8
  | _ => utf8

/-- The number that bytes write. -/
def ByteOrder.number (order : ByteOrder) (bytes : List Nat) : Nat :=
  match order with
  | big => bytes.foldl (256 * · + ·) 0
  | little => bytes.foldr (· + 256 * ·) 0

/-- The units of two bytes each, if no byte is left over. -/
def pairs? (order : ByteOrder) : List Nat → Option (List Nat)
  | [] => some []
  | [_] => none
  | a :: b :: rest => (pairs? order rest).map (order.number [a, b] :: ·)

/-- The units of four bytes each, if no byte is left over. -/
def quads? (order : ByteOrder) : List Nat → Option (List Nat)
  | [] => some []
  | a :: b :: c :: d :: rest => (quads? order rest).map (order.number [a, b, c, d] :: ·)
  | _ => none

def utf8Bytes (text : Text) : List Nat :=
  text.flatMap fun c ↦ (String.utf8EncodeChar c).map UInt8.toNat

def dropByteOrderMark : Text → Text
  | '\uFEFF' :: rest => rest
  | text => text

/-- The code points of the document that is meant by a text of which the bytes in UTF-8 are sent, if
they spell one. -/
def decode? (sent : Text) : Option (List Nat) :=
  let bytes := utf8Bytes sent
  match Encoding.ofBytes bytes with
  | .utf8 => some ((dropByteOrderMark sent).map Char.toNat)
  | .utf16 order => (pairs? order bytes).map joinHalves
  | .utf32 order => (quads? order bytes).filter (·.all (· < 0x110000))

end BraceFormat.Json
