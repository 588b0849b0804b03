import Retrace.Text.Utf8

/-!
# Bytes as text

A system works on bytes. They are held as characters below U+0100, one for each
byte, so that any output can pass through and only its end decides how it reads
as text.
-/

namespace Retrace

abbrev Bytes := List Char

namespace Unix

instance charHash : Hashable Char := ⟨fun c => c.val.toUInt64⟩

def ofBytes (bytes : List UInt8) : Bytes := bytes.map fun byte => Char.ofNat byte.toNat

def toBytes (text : Bytes) : List UInt8 := text.map fun c => UInt8.ofNat c.toNat

def ofString (text : String) : Bytes := ofBytes (Text.Utf8.encode text.toList)

scoped instance : Coe String Bytes := ⟨ofString⟩

def toText (text : Bytes) : String := String.ofList (Text.Utf8.decodeLossy (toBytes text))

def joined (mark : Char) (words : List Bytes) : Bytes := [mark].intercalate words

def cutAt (mark : Char) : Bytes → List Bytes
  | [] => [[]]
  | c :: rest =>
    match cutAt mark rest with
    | first :: more => if c = mark then [] :: first :: more else (c :: first) :: more
    | [] => []

theorem toBytes_ofBytes (bytes : List UInt8) : toBytes (ofBytes bytes) = bytes := by
  induction bytes with
  | nil => rfl
  | cons byte rest ih =>
    have small : byte.toNat < 256 := byte.toNat_lt
    have valid : byte.toNat.isValidChar := Or.inl (by omega)
    have value : (Char.ofNatAux byte.toNat valid).toNat = byte.toNat := rfl
    simp only [toBytes, ofBytes, List.map_cons, List.map_map] at ih ⊢
    rw [ih, Char.ofNat, dif_pos valid, value, UInt8.ofNat_toNat]

end Unix
end Retrace
