import Retrace.Tool.Amount
import Retrace.Tool.Digest.Sums
import Retrace.Tool.Options
import Retrace.Tool.Quoted

/-!
# Digests of files

Writes the digests of files.
-/

namespace Retrace.Tool.Digest

open Unix Text

structure Kind where
  title : String
  compute : List Nat → List Nat

def bytesOf (text : Bytes) : List Nat := text.map Char.toNat

structure Style where
  (binary tagged : Bool := false)
  mark : Char := '\n'

def contentOf (name : Bytes) : Work (Except OsError Bytes) := do
  match ← openInput name with
  | .error cause => return .error cause
  | .ok fd =>
    let (text, feed) ← Feed.all { fd }
    closeInput fd
    match feed.flaw with
    | some cause => return .error cause
    | none => return .ok text

def Style.line (style : Style) (kind : Kind) (name digest : Bytes) : Bytes :=
  (if style.tagged then ofString kind.title ++ " (" ++ name ++ ") = " ++ digest
  else digest ++ ofString (if style.binary then " *" else "  ") ++ name) ++ [style.mark]

def closing : Closing := { Closing.forgetful with input := some "standard input" }

def tool (kind : Kind) : Tool := makeClosing closing fun words => do
  let manual := (Manual.make "bctwz" [("binary", "b"), ("check", "c"), ("text", "t"), ("warn", "w"),
    ("zero", "z")]).named [("tag", .never), ("quiet", .never), ("status", .never), ("strict", .never),
    ("ignore-missing", .never)]
  let (style, names) ← manual.heed words ({} : Style) fun style name _ =>
    return match name with
      | "b" => { style with binary := true }
      | "t" => { style with binary := false }
      | "z" => { style with mark := '\x00' }
      | "tag" => { style with tagged := true }
      | _ => style
  for name in inputs names do
    match ← contentOf name with
    | .error cause => report name cause
    | .ok text => out (style.line kind name (hex (kind.compute (bytesOf text))))

end Retrace.Tool.Digest
