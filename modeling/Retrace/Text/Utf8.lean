/-!
# UTF-8

`scan` cuts bytes into characters and ill-formed stretches, each stretch as long
as it can still begin a character. Strict decoding refuses any stretch; lossy
decoding writes U+FFFD for each.
-/

namespace Retrace.Text.Utf8

/-- What a leading byte asks for: its payload, how many bytes follow the second
one, and the bounds of the second. -/
structure Lead where
  bits : Nat
  further : Nat
  low : Nat
  high : Nat

def lead? (byte : UInt8) : Option Lead :=
  let b := byte.toNat
  if b < 0xC2 then none
  else if b ≤ 0xDF then some ⟨b - 0xC0, 0, 0x80, 0xBF⟩
  else if b = 0xE0 then some ⟨0, 1, 0xA0, 0xBF⟩
  else if b = 0xED then some ⟨0xD, 1, 0x80, 0x9F⟩
  else if b ≤ 0xEF then some ⟨b - 0xE0, 1, 0x80, 0xBF⟩
  else if b = 0xF0 then some ⟨0, 2, 0x90, 0xBF⟩
  else if b ≤ 0xF3 then some ⟨b - 0xF0, 2, 0x80, 0xBF⟩
  else if b = 0xF4 then some ⟨4, 2, 0x80, 0x8F⟩
  else none

def within (low high : Nat) (byte : UInt8) : Bool := low ≤ byte.toNat && byte.toNat ≤ high

def extend (bits : Nat) (byte : UInt8) : Nat := bits * 64 + (byte.toNat - 0x80)

/-- Characters and, as `none`, ill-formed stretches. -/
def scan : List UInt8 → List (Option Char)
  | [] => []
  | a :: afterA =>
    if a.toNat < 0x80 then some (Char.ofNat a.toNat) :: scan afterA
    else match lead? a with
      | none => none :: scan afterA
      | some lead =>
        match afterA with
        | [] => [none]
        | b :: afterB =>
          if !within lead.low lead.high b then none :: scan (b :: afterB)
          else if lead.further = 0 then some (Char.ofNat (extend lead.bits b)) :: scan afterB
          else match afterB with
            | [] => [none]
            | c :: afterC =>
              if !within 0x80 0xBF c then none :: scan (c :: afterC)
              else if lead.further = 1 then
                some (Char.ofNat (extend (extend lead.bits b) c)) :: scan afterC
              else match afterC with
                | [] => [none]
                | d :: afterD =>
                  if !within 0x80 0xBF d then none :: scan (d :: afterD)
                  else some (Char.ofNat (extend (extend (extend lead.bits b) c) d)) :: scan afterD

def decode? (bytes : List UInt8) : Option (List Char) := (scan bytes).mapM id

def replacement : Char := Char.ofNat 0xFFFD

def decodeLossy (bytes : List UInt8) : List Char := (scan bytes).map (·.getD replacement)

def tailByte (bits : Nat) : UInt8 := UInt8.ofNat (0x80 + bits % 64)

def encodeChar (c : Char) : List UInt8 :=
  let n := c.toNat
  if n < 0x80 then [UInt8.ofNat n]
  else if n < 0x800 then [UInt8.ofNat (0xC0 + n / 64), tailByte n]
  else if n < 0x10000 then [UInt8.ofNat (0xE0 + n / 4096), tailByte (n / 64), tailByte n]
  else [UInt8.ofNat (0xF0 + n / 262144), tailByte (n / 4096), tailByte (n / 64), tailByte n]

def encode (text : List Char) : List UInt8 := text.flatMap encodeChar

@[simp] theorem scan_nil : scan [] = [] := rfl

@[simp] theorem encode_nil : encode [] = [] := rfl

@[simp] theorem encode_append (first second : List Char) :
    encode (first ++ second) = encode first ++ encode second := by
  simp [encode]

theorem scan_ascii {a : UInt8} (h : a.toNat < 0x80) (rest : List UInt8) :
    scan (a :: rest) = some (Char.ofNat a.toNat) :: scan rest := by
  rw [scan.eq_def]
  simp [h]

end Retrace.Text.Utf8
