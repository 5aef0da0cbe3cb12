import UriTemplate.Index
import UriTemplate.Text.Hex
import UriTemplate.Utf8

/-!
# Percent-encoding

Each byte of a text belongs to one of three classes: unreserved, reserved, or allowed
nowhere in a URI. A mask chooses the classes that `escape` replaces by percent triplets.
The text is taken apart into bytes and put together again in the coding that it asks for,
and a text without a byte to replace is returned as it is.
-/

set_option autoImplicit false

namespace UriTemplate

/-- The classes of bytes in a URI. -/
inductive ByteClass where
  | disallowed
  | unreserved
  | reserved
  deriving DecidableEq, Repr

namespace ByteClass

/-- The reserved delimiters `:/?#[]@!$&'()*+,;=`. -/
def reservedBytes : List UInt8 :=
  [0x3A, 0x2F, 0x3F, 0x23, 0x5B, 0x5D, 0x40, 0x21, 0x24, 0x26, 0x27, 0x28, 0x29, 0x2A,
    0x2B, 0x2C, 0x3B, 0x3D]

/-- Letters, digits and `-._~` are unreserved. -/
def isUnreserved (byte : UInt8) : Bool :=
  (0x41 ≤ byte && byte ≤ 0x5A) || (0x61 ≤ byte && byte ≤ 0x7A) ||
    (0x30 ≤ byte && byte ≤ 0x39) ||
    byte == 0x2D || byte == 0x2E || byte == 0x5F || byte == 0x7E

/-- The class of a byte. -/
def ofByte (byte : UInt8) : ByteClass :=
  if isUnreserved byte then .unreserved
  else if reservedBytes.contains byte then .reserved
  else .disallowed

/-- The bit that stands for a class in the number of a mask. -/
def flag : ByteClass → Nat
  | .disallowed => 1
  | .unreserved => 2
  | .reserved => 4

/-- The class of the byte at an index of the table of all bytes. -/
def atIndex (index : Int) : Except Index.Fault ByteClass :=
  (Index.place 256 index).map fun number => ofByte (UInt8.ofNat number)

end ByteClass

/-- A set of byte classes. -/
structure Mask where
  disallowed : Bool
  unreserved : Bool
  reserved : Bool
  deriving DecidableEq, Repr

namespace Mask

/-- The mask whose classes are the bits of a number in two's complement. Higher bits
stand for no class. -/
def ofInt (number : Int) : Mask where
  disallowed := number % 2 == 1
  unreserved := number / 2 % 2 == 1
  reserved := number / 4 % 2 == 1

/-- Whether a class belongs to a mask. -/
def has (mask : Mask) : ByteClass → Bool
  | .disallowed => mask.disallowed
  | .unreserved => mask.unreserved
  | .reserved => mask.reserved

/-- Whether a mask chooses a byte. -/
def selects (mask : Mask) (byte : UInt8) : Bool :=
  mask.has (.ofByte byte)

/-- The number whose bits are the classes of a mask. -/
def toNat (mask : Mask) : Nat :=
  [ByteClass.disallowed, .unreserved, .reserved].foldl
    (fun total byteClass => if mask.has byteClass then total + byteClass.flag else total) 0

/-- Encode whatever may not stand in a URI. -/
def disallowedOnly : Mask := ⟨true, false, false⟩

/-- Encode whatever may not stand in a component of a URI. -/
def allButUnreserved : Mask := ⟨true, false, true⟩

end Mask

namespace Percent

/-- The percent triplet of a byte, with uppercase digits. -/
def triplet (byte : UInt8) : List UInt8 :=
  0x25 :: (Text.ofHexWidth .upper 2 byte.toNat).map fun digit => UInt8.ofNat digit.toNat

/-- Replace the bytes of a mask by their triplets. -/
def encodeBytes (mask : Mask) (bytes : List UInt8) : List UInt8 :=
  bytes.flatMap fun byte => if mask.selects byte then triplet byte else [byte]

@[simp] theorem encodeBytes_nil (mask : Mask) : encodeBytes mask [] = [] := rfl

@[simp] theorem encodeBytes_append (mask : Mask) (left right : List UInt8) :
    encodeBytes mask (left ++ right) = encodeBytes mask left ++ encodeBytes mask right := by
  simp [encodeBytes]

/-- Whether no byte of a text is to be encoded. -/
def isClean (mask : Mask) (text : Text) : Bool :=
  !(Utf8.encode (Utf8.codingOf text) text).any mask.selects

/-- Replace the bytes of a mask in a text by their triplets. -/
def escape (mask : Mask) (text : Text) : Text :=
  if isClean mask text then
    text
  else
    let coding := Utf8.codingOf text
    Utf8.decode coding (encodeBytes mask (Utf8.encode coding text))

theorem escape_of_isClean {mask : Mask} {text : Text} (clean : isClean mask text) :
    escape mask text = text := by
  simp [escape, clean]

end Percent

end UriTemplate
