import Mathlib.Algebra.GroupWithZero.Nat
import Retrace.Command

/-!
# Rendered commands are the words they were made of

A POSIX shell cuts a line into words before it reads anything into them. `split`
is that cut, as far as no expansion is involved; it gives up on what it would have
to expand. What is rendered for a command is cut into the program and its
arguments again, whatever characters they hold, and nothing in them is left for
the shell to interpret.

On Windows a program cuts its own line, and backslashes mean something else there
when a quote comes next. The arguments come back exactly if none that needs quotes
has a backslash before one.
-/

namespace Retrace.Quoting

/-! ## How a shell cuts a line -/

/-- A character of a word, and whether a quote or a backslash hides it from the shell. -/
structure Glyph where
  char : Char
  hidden : Bool
  deriving DecidableEq, Repr

inductive Token where
  | word (glyphs : List Glyph)
  /-- Digits with a redirection directly behind them. -/
  | descriptor (digits : List Char)
  | operator (text : List Char)
  deriving DecidableEq, Repr

/-- The operators, a line end among them: like a blank it separates words, but it also ends a
command. -/
def operators : List (List Char) :=
  [['\n'], ['&'], ['&', '&'], ['|'], ['|', '|'], [';'], [';', ';'], ['('], [')'],
    ['<'], ['<', '<'], ['<', '<', '-'], ['<', '&'], ['<', '>'],
    ['>'], ['>', '>'], ['>', '&'], ['>', '|']]

/-- The characters a shell reads something into where nothing hides them. An equals sign and a
percent sign are not among them: they mean something only to the reading of words, as assignments
and as jobs. -/
def specials : List Char :=
  [' ', '\t', '\n', '\'', '\\', '"', '$', '\x60', '#', '~', '*', '?', '[', ']', '\x7b', '\x7d', '!',
    '^', '&', '|', ';', '(', ')', '<', '>']

/-- What the shell is in the middle of. The glyphs of a word come last first. -/
inductive State where
  | between
  | word (glyphs : List Glyph)
  | quoted (glyphs : List Glyph)
  | escaped (glyphs : List Glyph)
  | operator (text : List Char)

def start (c : Char) : Option State :=
  if c = '\'' then some (.quoted [])
  else if c = '\\' then some (.escaped [])
  else if c = ' ' || c = '\t' then some .between
  else if operators.contains [c] then some (.operator [c])
  else if c = '"' || c = '$' || c = '\x60' || c = '#' then none
  else some (.word [⟨c, false⟩])

def wordToken (glyphs : List Glyph) (next : Char) : Token :=
  if (next = '<' || next = '>') && !glyphs.isEmpty &&
      glyphs.all (fun glyph => !glyph.hidden && glyph.char.isDigit) then
    .descriptor (glyphs.map (·.char)).reverse
  else .word glyphs.reverse

def step : State → Char → Option (List Token × State)
  | .between, c => (start c).map ([], ·)
  | .word glyphs, c =>
    if c = '\'' then some ([], .quoted glyphs)
    else if c = '\\' then some ([], .escaped glyphs)
    else if c = ' ' || c = '\t' || operators.contains [c] then
      (start c).map ([wordToken glyphs c], ·)
    else if c = '"' || c = '$' || c = '\x60' then none
    else some ([], .word (⟨c, false⟩ :: glyphs))
  | .quoted glyphs, c =>
    some ([], if c = '\'' then .word glyphs else .quoted (⟨c, true⟩ :: glyphs))
  | .escaped glyphs, c => some ([], .word (⟨c, true⟩ :: glyphs))
  | .operator text, c =>
    if operators.contains (text ++ [c]) then some ([], .operator (text ++ [c]))
    else (start c).map ([.operator text], ·)

def finish : State → Option (List Token)
  | .between => some []
  | .word glyphs => some [.word glyphs.reverse]
  | .quoted _ => none
  | .escaped _ => none
  | .operator text => some [.operator text]

def splitFrom (state : State) : List Char → Option (List Token)
  | [] => finish state
  | c :: rest =>
    (step state c).bind fun (done, next) => (splitFrom next rest).map (done ++ ·)

def split (line : List Char) : Option (List Token) := splitFrom .between line

def redirection : List Token := [.descriptor ['2'], .operator ['>', '&'], .word [⟨'1', false⟩]]

/-! ## One word -/

theorem splitFrom_step {state next : State} {done : List Token} {c : Char}
    (h : step state c = some (done, next)) (rest : List Char) :
    splitFrom state (c :: rest) = (splitFrom next rest).map (done ++ ·) := by
  simp only [splitFrom, h, Option.bind_some]

theorem splitFrom_quiet {state next : State} {c : Char} (h : step state c = some ([], next))
    (rest : List Char) : splitFrom state (c :: rest) = splitFrom next rest := by
  rw [splitFrom_step h]
  cases splitFrom next rest <;> rfl

theorem not_special {c : Char} (h : Command.posixSafe c = true) : c ∉ specials := by
  have hspecials : specials.all (!Command.posixSafe ·) = true := by decide
  intro hmem
  have hunsafe := List.all_eq_true.mp hspecials c hmem
  simp [h] at hunsafe

theorem start_plain {c : Char} (h : c ∉ specials) : start c = some (.word [⟨c, false⟩]) := by
  simp only [specials, List.mem_cons, List.not_mem_nil, or_false, not_or] at h
  simp [start, operators, h]

theorem step_plain {c : Char} (h : c ∉ specials) (glyphs : List Glyph) :
    step (.word glyphs) c = some ([], .word (⟨c, false⟩ :: glyphs)) := by
  simp only [specials, List.mem_cons, List.not_mem_nil, or_false, not_or] at h
  simp [step, operators, h]

theorem splitFrom_bare {text : List Char} (h : ∀ c ∈ text, c ∉ specials) (glyphs : List Glyph)
    (rest : List Char) :
    splitFrom (.word glyphs) (text ++ rest) =
      splitFrom (.word ((text.map (⟨·, false⟩)).reverse ++ glyphs)) rest := by
  induction text generalizing glyphs with
  | nil => rfl
  | cons c text ih =>
    rw [List.forall_mem_cons] at h
    rw [List.cons_append, splitFrom_quiet (step_plain h.1 glyphs), ih h.2]
    simp

theorem splitFrom_quoted (text : List Char) (glyphs : List Glyph) (rest : List Char) :
    splitFrom (.quoted glyphs) (text.flatMap Command.posixEscape ++ '\'' :: rest) =
      splitFrom (.word ((text.map (⟨·, true⟩)).reverse ++ glyphs)) rest := by
  induction text generalizing glyphs with
  | nil => exact splitFrom_quiet rfl rest
  | cons c text ih =>
    have hchar : splitFrom (.quoted glyphs) (Command.posixEscape c ++
        (text.flatMap Command.posixEscape ++ '\'' :: rest)) =
        splitFrom (.quoted (⟨c, true⟩ :: glyphs))
          (text.flatMap Command.posixEscape ++ '\'' :: rest) := by
      unfold Command.posixEscape
      split
      · next hc =>
        subst hc
        simp only [List.cons_append, List.nil_append]
        rw [splitFrom_quiet rfl, splitFrom_quiet rfl, splitFrom_quiet rfl, splitFrom_quiet rfl]
      · next hc => exact splitFrom_quiet (by simp [step, hc]) _
    rw [List.flatMap_cons, List.append_assoc, hchar, ih]
    simp

def glyphs (text : List Char) : List Glyph :=
  text.map (⟨·, !(!text.isEmpty && text.all Command.posixSafe)⟩)

theorem splitFrom_quote (text rest : List Char) :
    splitFrom .between (Command.quote .posix text ++ rest) =
      splitFrom (.word (glyphs text).reverse) rest := by
  dsimp only [Command.quote]
  unfold Command.posixQuote glyphs
  split
  · next hsafe =>
    rw [hsafe]
    cases text with
    | nil => cases hsafe
    | cons c text =>
      have hplain : ∀ d ∈ c :: text, d ∉ specials := by
        simp only [Bool.and_eq_true, List.all_eq_true] at hsafe
        exact fun d hd => not_special (hsafe.2 d hd)
      rw [List.forall_mem_cons] at hplain
      have hstart : step .between c = some ([], .word [⟨c, false⟩]) := by
        rw [step, start_plain hplain.1, Option.map_some]
      rw [List.cons_append, splitFrom_quiet hstart, splitFrom_bare hplain.2]
      simp
  · next hsafe =>
    rw [Bool.not_eq_true] at hsafe
    have hopen : step .between '\'' = some ([], .quoted []) := rfl
    simp only [hsafe, List.cons_append, List.append_assoc, List.nil_append, Bool.not_false]
    rw [splitFrom_quiet hopen, splitFrom_quoted, List.append_nil]

theorem map_char_glyphs (text : List Char) : (glyphs text).map (·.char) = text := by
  simp [glyphs, Function.comp_def]

theorem hidden_of_special {text : List Char} {glyph : Glyph} (h : glyph ∈ glyphs text)
    (hs : glyph.char ∈ specials) : glyph.hidden = true := by
  obtain ⟨c, hc, rfl⟩ := List.mem_map.mp h
  cases hsafe : !text.isEmpty && text.all Command.posixSafe with
  | false => rfl
  | true =>
    simp only [Bool.and_eq_true, List.all_eq_true] at hsafe
    exact absurd hs (not_special (hsafe.2 c hc))

/-! ## Whole lines -/

theorem splitFrom_spaced {tail : List Char} {tokens : List Token}
    (ht : ∀ glyphs, splitFrom (.word glyphs) tail = some (.word glyphs.reverse :: tokens))
    (text : String) (others : List String) :
    splitFrom .between
        (Command.spaced ((text :: others).map (Command.quote .posix ·.toList)) ++ tail) =
      some ((text :: others).map (fun text => .word (glyphs text.toList)) ++ tokens) := by
  induction others generalizing text with
  | nil =>
    simp only [List.map_cons, List.map_nil, Command.spaced]
    rw [splitFrom_quote, ht]
    simp
  | cons other others ih =>
    have hspace (glyphs : List Glyph) :
        step (.word glyphs) ' ' = some ([.word glyphs.reverse], .between) := rfl
    have hothers := ih other
    rw [List.map_cons] at hothers
    rw [List.map_cons, List.map_cons, Command.spaced, List.append_assoc, splitFrom_quote,
      List.cons_append, splitFrom_step (hspace _), hothers]
    · simp
    · simp

theorem splitFrom_redirection (glyphs : List Glyph) :
    splitFrom (.word glyphs) " 2>&1".toList = some (.word glyphs.reverse :: redirection) := by
  have hspace : step (.word glyphs) ' ' = some ([.word glyphs.reverse], .between) := rfl
  have hrest : splitFrom .between "2>&1".toList = some redirection := by decide
  rw [show " 2>&1".toList = ' ' :: "2>&1".toList by decide, splitFrom_step hspace, hrest]
  rfl

theorem split_line (command : Command) :
    split (command.line .posix) =
      some ((command.program :: command.args).map (fun text => .word (glyphs text.toList)) ++
        if command.merged then redirection else []) := by
  unfold Command.line split
  cases command.merged with
  | false => exact splitFrom_spaced (fun _ => rfl) _ _
  | true => exact splitFrom_spaced splitFrom_redirection _ _

theorem render_posix {command : Command} (hs : command.script = none) :
    (command.render .posix).toList = command.line .posix := by
  rw [Command.render, hs]
  exact String.toList_ofList

theorem tokens_inj {words others : List (List Glyph)} {merged merged' : Bool}
    (h : words.map Token.word ++ (if merged then redirection else []) =
      others.map Token.word ++ if merged' then redirection else []) :
    words = others ∧ merged = merged' := by
  have hmem (words : List (List Glyph)) (merged : Bool) :
      Token.operator ['>', '&'] ∈ words.map Token.word ++ (if merged then redirection else []) ↔
        merged = true := by
    cases merged <;> simp [redirection]
  have hmerged : merged = merged' := by rw [Bool.eq_iff_iff, ← hmem words merged, h, hmem]
  subst hmerged
  exact ⟨(List.map_inj_right fun _ _ => Token.word.inj).mp (List.append_cancel_right h), rfl⟩

def Glyph.text (word : List Glyph) : String := String.ofList (word.map (·.char))

theorem text_glyphs (text : String) : Glyph.text (glyphs text.toList) = text := by
  rw [Glyph.text, map_char_glyphs, String.ofList_toList]

/-- A shell cuts a rendered command into its program and its arguments, then the redirection exactly
if the outputs are folded, and finds nothing in the words to interpret. So no two commands are
rendered alike. -/
theorem render_posix_faithful (command : Command) (hs : command.script = none) :
    (∃ words : List (List Glyph),
      split (command.render .posix).toList =
        some (words.map .word ++ if command.merged then redirection else []) ∧
      words.map Glyph.text = command.program :: command.args ∧
      ∀ word ∈ words, ∀ glyph ∈ word, glyph.char ∈ specials → glyph.hidden = true) ∧
    ∀ other : Command, other.script = none → other.render .posix = command.render .posix →
      other.program = command.program ∧ other.args = command.args ∧
        other.merged = command.merged := by
  have hsplit (command : Command) (hs : command.script = none) :
      split (command.render .posix).toList =
        some (((command.program :: command.args).map (glyphs ·.toList)).map .word ++
          if command.merged then redirection else []) := by
    rw [render_posix hs, split_line, List.map_map]
    rfl
  have htexts (texts : List String) : (texts.map (glyphs ·.toList)).map Glyph.text = texts := by
    rw [List.map_map]
    exact (List.map_congr_left fun text _ => text_glyphs text).trans (List.map_id' texts)
  refine ⟨⟨_, hsplit command hs, htexts _, ?_⟩, ?_⟩
  · intro word hword glyph hglyph
    obtain ⟨text, -, rfl⟩ := List.mem_map.mp hword
    exact hidden_of_special hglyph
  · intro other ho heq
    have htokens := hsplit other ho
    rw [heq, hsplit command hs, Option.some.injEq] at htokens
    obtain ⟨hwords, hmerged⟩ := tokens_inj htokens
    have hall := congrArg (List.map Glyph.text) hwords
    rw [htexts, htexts, List.cons.injEq] at hall
    exact ⟨hall.1.symm, hall.2.symm, hmerged.symm⟩

theorem render_posix_faithful_hostile :
    let command : Command :=
      { program := "it's", args := ["", "2>&1", "a\n\t\\", "'", "$(x)"], merged := true }
    command.script = none ∧ ∃ words : List (List Glyph),
      split (command.render .posix).toList = some (words.map .word ++ redirection) ∧
      words.map Glyph.text = ["it's", "", "2>&1", "a\n\t\\", "'", "$(x)"] := by
  intro command
  obtain ⟨⟨words, hsplit, hwords, -⟩, -⟩ := render_posix_faithful command rfl
  exact ⟨rfl, words, hsplit, hwords⟩

namespace Windows

/-! ## How a program cuts its line -/

structure Cut where
  quoted : Bool := false
  /-- An argument has begun, if only by quotes. -/
  begun : Bool := false
  word : List Char := []
  /-- Backslashes that mean what the next character makes of them. -/
  waiting : Nat := 0

namespace Cut

def text (cut : Cut) : List Char := cut.word ++ List.replicate cut.waiting '\\'

def wait (cut : Cut) : Cut := { cut with begun := true, waiting := cut.waiting + 1 }

def add (cut : Cut) (backslashes : Nat) (text : List Char) : Cut :=
  ⟨cut.quoted, true, cut.word ++ List.replicate backslashes '\\' ++ text, 0⟩

def ended (cut : Cut) : List (List Char) := if cut.begun then [cut.text] else []

/-- Each two backslashes before a quote stand for one, and one that is left over makes the quote a
character; elsewhere backslashes stand for themselves. -/
def arguments (cut : Cut) : List Char → List (List Char)
  | [] => cut.ended
  | c :: rest =>
    if c = '\\' then cut.wait.arguments rest
    else if c = '"' then
      if cut.waiting % 2 = 0 then
        arguments { cut.add (cut.waiting / 2) [] with quoted := !cut.quoted } rest
      else arguments (cut.add (cut.waiting / 2) ['"']) rest
    else if (c = ' ' || c = '\t') && !cut.quoted then cut.ended ++ arguments {} rest
    else arguments (cut.add cut.waiting [c]) rest

end Cut

def split (line : List Char) : List (List Char) := Cut.arguments {} line

/-! ## One argument -/

/-- How many backslashes in all stand before quotes, the closing one included, given how many
stand in front. -/
def lost (waiting : Nat) : List Char → Nat
  | [] => waiting
  | c :: rest =>
    if c = '\\' then lost (waiting + 1) rest
    else if c = '"' then waiting + lost 0 rest
    else lost 0 rest

theorem infix_run_iff {c : Char} (hc : c ≠ '\\') (waiting : Nat) (rest : List Char) :
    ['\\', '"'] <:+: List.replicate waiting '\\' ++ c :: rest ↔
      (0 < waiting ∧ c = '"') ∨ ['\\', '"'] <:+: rest := by
  induction waiting with
  | zero => simp [List.infix_cons_iff, Ne.symm hc]
  | succ n ih =>
    rw [List.replicate_succ, List.cons_append, List.infix_cons_iff, ih]
    cases n with
    | zero => simp [eq_comm]
    | succ n => simp [List.replicate_succ]

theorem lost_eq_zero_iff (waiting : Nat) (text : List Char) :
    lost waiting text = 0 ↔
      ¬['\\', '"'] <:+: List.replicate waiting '\\' ++ (text ++ ['"']) := by
  induction text generalizing waiting with
  | nil =>
    rw [lost, List.nil_append, infix_run_iff (by decide)]
    simp
  | cons c text ih =>
    rw [lost, List.cons_append]
    split
    · next hc =>
      subst hc
      have hnext := ih (waiting + 1)
      rwa [List.replicate_succ', List.append_assoc, List.singleton_append] at hnext
    · next hc =>
      rw [infix_run_iff hc]
      split
      · next hq => simp [hq, ih 0]
      · next hq => simpa [hq] using ih 0

theorem not_unsafe {c : Char} (h : Command.windowsUnsafe c = false) :
    c ≠ '"' ∧ c ≠ ' ' ∧ c ≠ '\t' := by
  refine ⟨?_, ?_, ?_⟩ <;> rintro rfl <;> revert h <;> decide

def Ends (rest : List Char) : Prop := rest = [] ∨ ∃ more, rest = ' ' :: more

namespace Cut

variable {text rest : List Char} (cut : Cut)

theorem arguments_ends (hrest : Ends rest) (hq : cut.quoted = false) (hb : cut.begun = true) :
    cut.arguments rest = cut.text :: split rest := by
  rcases hrest with rfl | ⟨more, rfl⟩ <;> simp [arguments, ended, split, hb, hq]

theorem arguments_bare (h : ∀ c ∈ text, Command.windowsUnsafe c = false)
    (hq : cut.quoted = false) (hb : cut.begun = true ∨ text ≠ []) (hrest : Ends rest) :
    cut.arguments (text ++ rest) = (cut.text ++ text) :: split rest := by
  induction text generalizing cut with
  | nil =>
    rw [List.append_nil, List.nil_append]
    exact cut.arguments_ends hrest hq (by simpa using hb)
  | cons c text ih =>
    rw [List.forall_mem_cons] at h
    obtain ⟨hquote, hspace, htab⟩ := not_unsafe h.1
    rw [List.cons_append, arguments]
    by_cases hc : c = '\\'
    · rw [if_pos hc, ih cut.wait h.2 hq (.inl rfl)]
      simp [Cut.text, wait, hc, List.replicate_succ']
    · rw [if_neg hc, if_neg hquote, if_neg (by simp [hspace, htab]),
        ih (cut.add cut.waiting [c]) h.2 hq (.inl rfl)]
      simp [Cut.text, add]

theorem arguments_quoted (h : lost cut.waiting text = 0) (hq : cut.quoted = true)
    (rest : List Char) :
    cut.arguments (text.flatMap Command.windowsEscape ++ '"' :: rest) =
      arguments ⟨false, true, cut.text ++ text, 0⟩ rest := by
  induction text generalizing cut with
  | nil =>
    have hw : cut.waiting = 0 := h
    simp [arguments, add, Cut.text, hw, hq]
  | cons c text ih =>
    rw [lost] at h
    rw [List.flatMap_cons, List.append_assoc]
    by_cases hc : c = '\\'
    · rw [if_pos hc] at h
      have hchar : Command.windowsEscape c = ['\\'] := by rw [hc]; rfl
      rw [hchar, List.singleton_append, arguments, if_pos rfl, ih cut.wait h hq]
      simp [Cut.text, wait, hc, List.replicate_succ']
    · rw [if_neg hc] at h
      by_cases hquote : c = '"'
      · rw [if_pos hquote] at h
        have hw : cut.waiting = 0 := by omega
        have hchar : Command.windowsEscape c = ['\\', '"'] := by rw [hquote]; rfl
        rw [hchar, List.cons_append, List.singleton_append, arguments, if_pos rfl, arguments,
          if_neg (by decide), if_pos rfl, if_neg (by simp [wait, hw]),
          ih (cut.wait.add _ ['"']) (Nat.eq_zero_of_add_eq_zero_left h) hq]
        simp [Cut.text, wait, add, hw, hquote]
      · rw [if_neg hquote] at h
        have hchar : Command.windowsEscape c = [c] := if_neg hquote
        rw [hchar, List.singleton_append, arguments, if_neg hc, if_neg hquote,
          if_neg (by simp [hq]), ih (cut.add cut.waiting [c]) h hq]
        simp [Cut.text, add]

end Cut

/-! ## What a whole line is worth -/

/-- A quote is worth half a backslash. So backslashes bring half of what they are worth when a quote
comes next, whether it opens, closes or is a character. -/
def worth (text : List Char) : Nat := 2 * text.count '\\' + text.count '"'

def brought (waiting : Nat) : List Char → Nat
  | [] => 2 * waiting
  | c :: rest =>
    if c = '\\' then brought (waiting + 1) rest
    else if c = '"' then waiting + brought 0 rest
    else 2 * waiting + brought 0 rest

theorem worth_append (text other : List Char) :
    worth (text ++ other) = worth text + worth other := by
  simp only [worth, List.count_append]
  omega

theorem worth_replicate (n : Nat) : worth (List.replicate n '\\') = 2 * n := by
  simp [worth, List.count_replicate]

theorem worth_plain {c : Char} (hc : c ≠ '\\') (hq : c ≠ '"') : worth [c] = 0 := by
  simp [worth, hc, hq]

theorem Cut.worth_add (cut : Cut) (backslashes : Nat) (text : List Char) :
    worth (cut.add backslashes text).word = worth cut.word + 2 * backslashes + worth text := by
  rw [add, worth_append, worth_append, worth_replicate]

theorem Cut.sum_worth_ended {cut : Cut} (h : cut.begun = false → cut.text = []) :
    (cut.ended.map worth).sum = worth cut.word + 2 * cut.waiting := by
  rw [← worth_replicate, ← worth_append]
  show _ = worth cut.text
  cases hb : cut.begun with
  | false => simp [ended, hb, h hb, worth]
  | true => simp [ended, hb]

theorem Cut.sum_worth_arguments (cut : Cut) (h : cut.begun = false → cut.text = [])
    (text : List Char) :
    ((cut.arguments text).map worth).sum = worth cut.word + brought cut.waiting text := by
  induction text generalizing cut with
  | nil => exact sum_worth_ended h
  | cons c rest ih =>
    rw [arguments, brought]
    split
    · exact ih cut.wait nofun
    split
    · split
      · have hnext := ih { cut.add (cut.waiting / 2) [] with quoted := !cut.quoted } nofun
        rw [hnext, worth_add, show worth [] = 0 from rfl]
        simp only [add]
        omega
      · have hnext := ih (cut.add (cut.waiting / 2) ['"']) nofun
        rw [hnext, worth_add, show worth ['"'] = 1 from rfl]
        simp only [add]
        omega
    · next hc hq =>
      split
      · have hnext : ((arguments {} rest).map worth).sum = brought 0 rest :=
          (ih {} fun _ => rfl).trans (Nat.zero_add _)
        rw [List.map_append, List.sum_append, sum_worth_ended h, hnext]
        omega
      · have hnext := ih (cut.add cut.waiting [c]) nofun
        rw [hnext, worth_add, worth_plain hc hq]
        simp only [add]
        omega

theorem brought_bare {text rest : List Char} (h : ∀ c ∈ text, Command.windowsUnsafe c = false)
    (hrest : Ends rest) (waiting : Nat) :
    brought waiting (text ++ rest) = 2 * waiting + worth text + brought 0 rest := by
  induction text generalizing waiting with
  | nil => rcases hrest with rfl | ⟨more, rfl⟩ <;> simp [brought, worth]
  | cons c text ih =>
    rw [List.forall_mem_cons] at h
    obtain ⟨hquote, -⟩ := not_unsafe h.1
    rw [List.cons_append, brought, ← List.singleton_append, worth_append]
    by_cases hc : c = '\\'
    · rw [if_pos hc, ih h.2, hc, show worth ['\\'] = 2 from rfl]
      omega
    · rw [if_neg hc, if_neg hquote, ih h.2, worth_plain hc hquote]
      omega

theorem brought_quoted (waiting : Nat) (text rest : List Char) :
    brought waiting (text.flatMap Command.windowsEscape ++ '"' :: rest) + lost waiting text =
      2 * waiting + worth text + brought 0 rest := by
  induction text generalizing waiting with
  | nil =>
    rw [List.flatMap_nil, List.nil_append, brought, if_neg (by decide), if_pos rfl, lost,
      show worth [] = 0 from rfl]
    omega
  | cons c text ih =>
    rw [List.flatMap_cons, List.append_assoc, lost, ← List.singleton_append (l := text),
      worth_append]
    by_cases hc : c = '\\'
    · have hnext := ih (waiting + 1)
      have hchar : Command.windowsEscape c = ['\\'] := by rw [hc]; rfl
      rw [if_pos hc, hchar, hc, List.singleton_append, brought, if_pos rfl,
        show worth ['\\'] = 2 from rfl]
      omega
    · have hnext := ih 0
      by_cases hquote : c = '"'
      · have hchar : Command.windowsEscape c = ['\\', '"'] := by rw [hquote]; rfl
        rw [if_neg hc, if_pos hquote, hchar, hquote, List.cons_append, List.singleton_append,
          brought, if_pos rfl, brought, if_neg (by decide), if_pos rfl,
          show worth ['"'] = 1 from rfl]
        omega
      · have hchar : Command.windowsEscape c = [c] := if_neg hquote
        rw [if_neg hc, if_neg hquote, hchar, List.singleton_append, brought, if_neg hc,
          if_neg hquote, worth_plain hc hquote]
        omega

/-- The backslashes that quoting a text spoils. A text that needs no quotes keeps all of them. -/
def spoilt (text : List Char) : Nat := if text.any Command.windowsUnsafe then lost 0 text else 0

def Spoils (text : List Char) : Prop :=
  text.any Command.windowsUnsafe = true ∧ ['\\', '"'] <:+: text ++ ['"']

theorem spoilt_eq_zero_iff (text : List Char) : spoilt text = 0 ↔ ¬Spoils text := by
  unfold spoilt Spoils
  split
  · next h => simpa [h] using lost_eq_zero_iff 0 text
  · next h => simp [h]

theorem quote_cases (text : List Char) :
    (Command.windowsQuote text = text ∧ text ≠ [] ∧
      (∀ c ∈ text, Command.windowsUnsafe c = false) ∧ spoilt text = 0) ∨
    (Command.windowsQuote text = '"' :: text.flatMap Command.windowsEscape ++ ['"'] ∧
      spoilt text = lost 0 text) := by
  unfold Command.windowsQuote spoilt
  cases text with
  | nil => exact .inr ⟨rfl, rfl⟩
  | cons c text =>
    cases h : (c :: text).any Command.windowsUnsafe with
    | false => exact .inl ⟨rfl, nofun, by simpa using h, rfl⟩
    | true => exact .inr ⟨rfl, rfl⟩

theorem split_quote {text rest : List Char} (h : spoilt text = 0) (hrest : Ends rest) :
    split (Command.windowsQuote text ++ rest) = text :: split rest := by
  obtain ⟨hquote, hne, hsafe, -⟩ | ⟨hquote, hlost⟩ := quote_cases text
  · rw [hquote]
    exact Cut.arguments_bare {} hsafe rfl (.inr hne) hrest
  · rw [hquote, List.append_assoc, List.singleton_append, List.cons_append]
    have hopen := Cut.arguments_quoted ⟨true, true, [], 0⟩ (hlost ▸ h) rfl rest
    have hclosed := Cut.arguments_ends ⟨false, true, text, 0⟩ hrest rfl rfl
    exact hopen.trans (by simpa [Cut.text] using hclosed)

theorem brought_quote {rest : List Char} (text : List Char) (hrest : Ends rest) :
    brought 0 (Command.windowsQuote text ++ rest) + spoilt text = worth text + brought 0 rest := by
  obtain ⟨hquote, -, hsafe, hspoilt⟩ | ⟨hquote, hlost⟩ := quote_cases text
  · rw [hquote, hspoilt, brought_bare hsafe hrest]
    omega
  · have hinner := brought_quoted 0 text rest
    rw [hquote, hlost, List.append_assoc, List.singleton_append, List.cons_append, brought,
      if_neg (by decide), if_pos rfl]
    omega

def tail (args : List (List Char)) : List Char := args.flatMap (' ' :: Command.windowsQuote ·)

theorem spaced_cons (first : List Char) (others : List (List Char)) :
    Command.spaced (first :: others) = first ++ others.flatMap (' ' :: ·) := by
  induction others generalizing first with
  | nil => simp [Command.spaced]
  | cons other others ih => rw [Command.spaced, ih] <;> simp

theorem ends_tail (args : List (List Char)) : Ends (tail args) := by
  cases args with
  | nil => exact .inl rfl
  | cons arg args => exact .inr ⟨_, rfl⟩

theorem split_tail {args : List (List Char)} (h : ∀ arg ∈ args, spoilt arg = 0) :
    split (tail args) = args := by
  induction args with
  | nil => rfl
  | cons arg args ih =>
    rw [List.forall_mem_cons] at h
    calc split (tail (arg :: args))
      _ = split (Command.windowsQuote arg ++ tail args) := rfl
      _ = arg :: args := by rw [split_quote h.1 (ends_tail args), ih h.2]

theorem brought_tail (args : List (List Char)) :
    brought 0 (tail args) + (args.map spoilt).sum = (args.map worth).sum := by
  induction args with
  | nil => rfl
  | cons arg args ih =>
    have hspace : brought 0 (tail (arg :: args)) =
        brought 0 (Command.windowsQuote arg ++ tail args) := by
      show brought 0 (' ' :: _) = _
      rw [brought, if_neg (by decide), if_neg (by decide)]
      exact Nat.zero_add _
    have hquote := brought_quote arg (ends_tail args)
    simp only [List.map_cons, List.sum_cons]
    omega

/-- Each spoilt backslash is missing from the arguments, so no other cut makes up for it. -/
theorem split_tail_iff (args : List (List Char)) :
    split (tail args) = args ↔ ∀ arg ∈ args, ¬Spoils arg := by
  simp only [← spoilt_eq_zero_iff]
  refine ⟨fun hsplit arg harg => ?_, split_tail⟩
  have hcut := Cut.sum_worth_arguments {} (fun _ => rfl) (tail args)
  have hline := brought_tail args
  have hsum : (args.map spoilt).sum = 0 := by
    rw [show Cut.arguments {} (tail args) = args from hsplit] at hcut
    simp only [worth, List.count_nil] at hcut hline
    omega
  exact List.sum_eq_zero_iff_forall_eq_nat.mp hsum _ (List.mem_map_of_mem harg)

/-- A program on Windows finds its arguments in a rendered command exactly if each one that needs
quotes has no backslash before a quote or at its end. -/
theorem render_windows_faithful_iff (command : Command) (hs : command.script = none)
    (hm : command.merged = false) :
    ∃ rest : List Char,
      (command.render .windows).toList = Command.windowsQuote command.program.toList ++ rest ∧
      (split rest = command.args.map String.toList ↔
        ∀ arg ∈ command.args, ¬Spoils arg.toList) := by
  have hline : (command.render .windows).toList = command.line .windows := by
    rw [Command.render, hs]
    exact String.toList_ofList
  refine ⟨tail (command.args.map String.toList), ?_, ?_⟩
  · rw [hline, Command.line, hm, List.map_cons, spaced_cons]
    simp [tail, List.flatMap_map, Command.quote]
  · simpa using split_tail_iff (command.args.map String.toList)

theorem render_windows_faithful_iff_hostile :
    let command : Command := { program := "cl", args := ["", "a\\\\b", "say \"x y\"", "C:\\dir\\"] }
    command.script = none ∧ command.merged = false ∧ ∃ rest : List Char,
      (command.render .windows).toList = Command.windowsQuote command.program.toList ++ rest ∧
      split rest = command.args.map String.toList := by
  intro command
  obtain ⟨rest, hline, hsplit⟩ := render_windows_faithful_iff command rfl rfl
  have hspoilt : command.args.all (spoilt ·.toList = 0) = true := by decide
  refine ⟨rfl, rfl, rest, hline, hsplit.mpr fun arg harg => ?_⟩
  exact (spoilt_eq_zero_iff _).mp (by simpa using List.all_eq_true.mp hspoilt arg harg)

/-- The backslash that ends a directory hides the closing quote, which swallows the next
argument. -/
theorem split_directory_swallows :
    let command : Command := { program := "cl", args := ["C:\\my dir\\", "/c"] }
    (command.render .windows).toList = "cl".toList ++ " \"C:\\my dir\\\" /c".toList ∧
    split " \"C:\\my dir\\\" /c".toList = ["C:\\my dir\" /c".toList] := by
  decide

end Windows

end Retrace.Quoting
