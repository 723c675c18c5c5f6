set_option autoImplicit false

/- hex.EncodeToString, and fmt's %x of bytes. -/
namespace HexText

def hexByte (byte : UInt8) : List Char := [Nat.digitChar (byte.toNat / 16), Nat.digitChar (byte.toNat % 16)]

def hexText (bytes : List UInt8) : String := String.ofList (bytes.flatMap hexByte)

end HexText
