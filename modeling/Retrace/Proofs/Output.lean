import Retrace.Finding.Output
import Retrace.Proofs.Text
import Retrace.Unix.Bytes

/-!
# Output is read one line at a time

Both grammars trim the end of a line and find nothing on an empty one, so the
findings of an output are those of the pieces between its newlines, and neither
carriage returns in front of them nor a missing last newline make a difference.

No byte of a character but a newline itself has the value of a newline, and an
ill-formed stretch ends in front of any byte that cannot continue it. So the bytes
of one line never change how another is read.
-/

namespace Retrace

/-! ## Lines -/

namespace Text

theorem trimEnd_dropReturn (line : List Char) : trimEnd (dropReturn line) = trimEnd line := by
  unfold dropReturn
  split
  · next hlast =>
    obtain ⟨front, rfl⟩ := List.getLast?_eq_some_iff.mp hlast
    rw [List.dropLast_concat, trimEnd_append_blank rfl]
  · rfl

theorem pieces_of_not_mem {line : List Char} (h : '\n' ∉ line) : pieces line = [line] := by
  induction line with
  | nil => rfl
  | cons c rest ih =>
    rw [List.mem_cons, not_or] at h
    rw [pieces, if_neg (Ne.symm h.1), ih h.2]

def withReturns (text : List Char) : List Char :=
  text.flatMap fun c => if c = '\n' then ['\r', '\n'] else [c]

end Text

namespace LineStyle

open Text

/-- What stands behind the last character of a line that is not blank is not read. -/
theorem readLine_congr (style : LineStyle) {line line' : List Char}
    (h : trimEnd line = trimEnd line') : style.readLine line = style.readLine line' := by
  cases style with
  | gnu => exact congrArg Finding.Gnu.read? h
  | msvc =>
    have htrim : trim line = trim line' := by rw [← trim_trimEnd, h, trim_trimEnd]
    exact congrArg (Finding.Msvc.scan []) htrim

theorem readLine_nil (style : LineStyle) : style.readLine [] = none := by
  cases style <;> rfl

theorem filterMap_endLines (style : LineStyle) (pieces : List (List Char)) :
    (endLines pieces).filterMap style.readLine = pieces.filterMap style.readLine := by
  fun_induction endLines pieces with
  | case1 => rfl
  | case2 last h =>
    rw [List.isEmpty_iff.mp h, List.filterMap_cons_none style.readLine_nil]
  | case3 => rfl
  | case4 piece others _ ih =>
    rw [List.filterMap_cons, List.filterMap_cons, ih,
      style.readLine_congr (trimEnd_dropReturn piece)]

/-- The ends of the lines do not matter: every piece between newlines is read for itself. -/
theorem read_eq (style : LineStyle) (text : List Char) :
    style.read text = (pieces text).filterMap style.readLine :=
  style.filterMap_endLines _

theorem read_append_newline (style : LineStyle) (first second : List Char) :
    style.read (first ++ '\n' :: second) = style.read first ++ style.read second := by
  rw [read_eq, read_eq, read_eq, pieces_append_newline, List.filterMap_append]

theorem read_line (style : LineStyle) {line : List Char} (h : '\n' ∉ line) :
    style.read line = (style.readLine line).toList := by
  rw [read_eq, pieces_of_not_mem h]
  cases hr : style.readLine line <;> simp [hr]

/-- The induction is over the text behind the start of a line, which stands still until the line
ends. -/
theorem read_withReturns_append (style : LineStyle) (text : List Char) {start : List Char}
    (h : '\n' ∉ start) :
    style.read (start ++ withReturns text) = style.read (start ++ text) := by
  induction text generalizing start with
  | nil => rfl
  | cons c rest ih =>
    by_cases hc : c = '\n'
    · subst hc
      have hreturn : '\n' ∉ start ++ ['\r'] := by simpa using h
      have hline : style.read (start ++ ['\r']) = style.read start := by
        rw [style.read_line hreturn, style.read_line h,
          style.readLine_congr (trimEnd_append_blank rfl start)]
      calc style.read (start ++ withReturns ('\n' :: rest))
          = style.read ((start ++ ['\r']) ++ '\n' :: withReturns rest) := by simp [withReturns]
        _ = style.read start ++ style.read rest := by
          rw [read_append_newline, hline, ← List.nil_append (withReturns rest),
            ih List.not_mem_nil, List.nil_append]
        _ = style.read (start ++ '\n' :: rest) := (style.read_append_newline start rest).symm
    · have hstart : '\n' ∉ start ++ [c] := by simpa [Ne.symm hc] using h
      simpa [withReturns, hc] using ih hstart

theorem parseOutput_append_newline (style : LineStyle) (first second : String) :
    style.parseOutput (first ++ "\n" ++ second) =
      style.parseOutput first ++ style.parseOutput second := by
  simpa [parseOutput] using style.read_append_newline first.toList second.toList

theorem parseOutput_line (style : LineStyle) {line : String} (h : '\n' ∉ line.toList) :
    style.parseOutput line = (style.parseLine line).toList :=
  style.read_line h

/-- The findings of two outputs with a newline between them are those of the one and then those of
the other, however the first one ends, and an output without a newline is read as one line; a
carriage return in front of every newline changes nothing. -/
theorem parseOutput_by_line (style : LineStyle) (first second text : String) :
    style.parseOutput (first ++ "\n" ++ second) =
        style.parseOutput first ++ style.parseOutput second ∧
      ('\n' ∉ text.toList → style.parseOutput text = (style.parseLine text).toList) ∧
      style.parseOutput (String.ofList (withReturns text.toList)) = style.parseOutput text := by
  refine ⟨style.parseOutput_append_newline first second, style.parseOutput_line, ?_⟩
  simpa [parseOutput] using style.read_withReturns_append text.toList List.not_mem_nil

end LineStyle

/-! ## Bytes -/

namespace Text.Utf8

theorem low_of_lead? {a : UInt8} {lead : Lead} (h : lead? a = some lead) : 0x80 ≤ lead.low := by
  simp only [lead?] at h
  split_ifs at h <;> simp only [Option.some.injEq] at h <;> subst h <;> simp

theorem within_newline {low : Nat} (high : Nat) (h : 0x80 ≤ low) : within low high 0x0A = false := by
  have hsmall : ¬low ≤ 10 := by omega
  simp [within, hsmall]

theorem scan_newline (rest : List UInt8) : scan (0x0A :: rest) = some '\n' :: scan rest :=
  scan_ascii (by decide) rest

theorem scan_append_newline (first second : List UInt8) :
    scan (first ++ 0x0A :: second) = scan first ++ some '\n' :: scan second := by
  fun_induction scan first
  case case1 => exact scan_newline second
  case case4 hl =>
    rw [List.singleton_append, scan.eq_def]
    simp [*, within_newline _ (low_of_lead? hl), scan_newline]
  -- the newline cuts a character short
  case case7 | case10 =>
    rw [List.cons_append, scan.eq_def]
    simp [*, within_newline, scan_newline]
  -- a stretch ends in front of a byte that is read anew
  case case5 ih | case8 ih | case11 ih =>
    rw [List.cons_append, scan.eq_def]
    simpa [*] using ih
  all_goals
    rw [List.cons_append, scan.eq_def]
    simp [*]

theorem decodeLossy_append_newline (first second : List UInt8) :
    decodeLossy (first ++ 0x0A :: second) = decodeLossy first ++ '\n' :: decodeLossy second := by
  simp [decodeLossy, scan_append_newline]

end Text.Utf8

namespace Unix

open Text.Utf8

def streamText (bytes : List UInt8) : String := toText (ofBytes bytes)

theorem streamText_eq (bytes : List UInt8) :
    streamText bytes = String.ofList (decodeLossy bytes) := by
  rw [streamText, toText, toBytes_ofBytes]

theorem streamText_append_newline (first second : List UInt8) :
    streamText (first ++ [0x0A] ++ second) = streamText first ++ "\n" ++ streamText second := by
  apply String.toList_injective
  simp [streamText_eq, decodeLossy_append_newline]

theorem streamText_encode (text : String) : streamText (encode text.toList) = text := by
  rw [streamText_eq, decodeLossy_encode, String.ofList_toList]

theorem parseOutput_stream_append_newline (style : LineStyle) (first second : List UInt8) :
    style.parseOutput (streamText (first ++ [0x0A] ++ second)) =
      style.parseOutput (streamText first) ++ style.parseOutput (streamText second) := by
  rw [streamText_append_newline, style.parseOutput_append_newline]

theorem parseOutput_intercalate (style : LineStyle) (lines : List (List UInt8)) :
    style.parseOutput (streamText ([0x0A].intercalate lines)) =
      lines.flatMap fun line => style.parseOutput (streamText line) := by
  induction lines with
  | nil => cases style <;> rfl
  | cons line others ih =>
    cases others with
    | nil => simp
    | cons next rest =>
      rw [List.intercalate_cons_cons, parseOutput_stream_append_newline, ih]
      rfl

/-- Whatever bytes stand on one line, the others are read as if they stood alone, and a line of
well-formed bytes as the text that was printed. -/
theorem stream_by_line (style : LineStyle) :
    (∀ first second, streamText (first ++ [0x0A] ++ second) =
        streamText first ++ "\n" ++ streamText second) ∧
      (∀ text : String, streamText (encode text.toList) = text) ∧
      (∀ first second, style.parseOutput (streamText (first ++ [0x0A] ++ second)) =
        style.parseOutput (streamText first) ++ style.parseOutput (streamText second)) ∧
      (∀ lines : List (List UInt8), style.parseOutput (streamText ([0x0A].intercalate lines)) =
        lines.flatMap fun line => style.parseOutput (streamText line)) ∧
      ∀ line : String, '\n' ∉ line.toList →
        style.parseOutput (streamText (encode line.toList)) = (style.parseLine line).toList := by
  refine ⟨streamText_append_newline, streamText_encode, parseOutput_stream_append_newline style,
    parseOutput_intercalate style, fun line h => ?_⟩
  rw [streamText_encode, style.parseOutput_line h]

end Unix
end Retrace
