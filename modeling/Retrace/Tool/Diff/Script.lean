/-!
# Edit scripts

What has to be taken out of one sequence of lines and put in from another to make
the second out of the first. Lines are given as numbers that are equal when the
lines count as the same.

The shortest way is looked for from both ends at once: each search keeps, for every
diagonal, how far it has come, and where the two meet the sequences are cut in two.
Lines without a counterpart are left out of the search, and changes are moved as far
to the end as they can be, or to where the other sequence changes too.
-/

namespace Retrace.Tool.Diff

structure Change where
  first : Nat
  deleted : Nat
  second : Nat
  inserted : Nat
  deriving DecidableEq, Repr

namespace Script

/-! ## The search -/

structure Pair where
  a : Array Nat
  b : Array Nat

structure Window where
  xoff : Int
  xlim : Int
  yoff : Int
  ylim : Int

def Pair.same (pair : Pair) (x y : Int) : Bool :=
  match pair.a[x.toNat]?, pair.b[y.toNat]? with
  | some a, some b => a = b
  | _, _ => false

def Pair.slide (pair : Pair) (window : Window) : Nat → Int → Int → Int
  | 0, x, _ => x
  | fuel + 1, x, y =>
    if x < window.xlim && y < window.ylim && pair.same x y then pair.slide window fuel (x + 1) (y + 1)
    else x

def Pair.slideBack (pair : Pair) (window : Window) : Nat → Int → Int → Int
  | 0, x, _ => x
  | fuel + 1, x, y =>
    if window.xoff < x && window.yoff < y && pair.same (x - 1) (y - 1) then
      pair.slideBack window fuel (x - 1) (y - 1)
    else x

/-- How far a search has come: on which diagonals, and how far on each. Diagonals are counted
from the lowest of the two sequences. -/
structure Front where
  low : Int
  high : Int
  reach : Array Int

def Front.at (front : Front) (shift d : Int) : Int := (front.reach[(d + shift).toNat]?).getD 0

def Front.set (front : Front) (shift d value : Int) : Front :=
  { front with reach := front.reach.set! (d + shift).toNat value }

def Front.widen (front : Front) (shift dmin dmax edge : Int) : Front :=
  let front :=
    if dmin < front.low then
      { front.set shift (front.low - 2) edge with low := front.low - 1 }
    else { front with low := front.low + 1 }
  if front.high < dmax then { front.set shift (front.high + 2) edge with high := front.high + 1 }
  else { front with high := front.high - 1 }

/-- One step of the search from the start, on the diagonals from `d` down. It ends where it
meets the search from the end. -/
def Pair.forward (pair : Pair) (window : Window) (shift : Int) (odd : Bool) (other : Front) :
    Nat → Int → Front → Except (Int × Int) Front
  | 0, _, front => .ok front
  | fuel + 1, d, front =>
    if d < front.low then .ok front
    else
      let below := front.at shift (d - 1)
      let above := front.at shift (d + 1)
      let start := if below < above then above else below + 1
      let x := pair.slide window (pair.a.size + 1) start (start - d)
      let front := front.set shift d x
      if odd && other.low ≤ d && d ≤ other.high && other.at shift d ≤ x then .error (x, x - d)
      else pair.forward window shift odd other fuel (d - 2) front

def Pair.backward (pair : Pair) (window : Window) (shift : Int) (odd : Bool) (other : Front) :
    Nat → Int → Front → Except (Int × Int) Front
  | 0, _, front => .ok front
  | fuel + 1, d, front =>
    if d < front.low then .ok front
    else
      let below := front.at shift (d - 1)
      let above := front.at shift (d + 1)
      let start := if below < above then below else above - 1
      let x := pair.slideBack window (pair.a.size + 1) start (start - d)
      let front := front.set shift d x
      if !odd && other.low ≤ d && d ≤ other.high && x ≤ other.at shift d then .error (x, x - d)
      else pair.backward window shift odd other fuel (d - 2) front

def Pair.meet (pair : Pair) (window : Window) (shift : Int) (odd : Bool) :
    Nat → Front → Front → Int × Int
  | 0, _, _ => (window.xoff, window.yoff)
  | fuel + 1, ahead, behind =>
    let dmin := window.xoff - window.ylim
    let dmax := window.xlim - window.yoff
    let size := pair.a.size + pair.b.size + 2
    let ahead := ahead.widen shift dmin dmax (-1)
    match pair.forward window shift odd behind size ahead.high ahead with
    | .error place => place
    | .ok ahead =>
      let behind := behind.widen shift dmin dmax (pair.a.size + pair.b.size + 10 : Nat)
      match pair.backward window shift odd ahead size behind.high behind with
      | .error place => place
      | .ok behind => pair.meet window shift odd fuel ahead behind

def Pair.middle (pair : Pair) (window : Window) : Int × Int :=
  let shift : Int := (pair.b.size + 2 : Nat)
  let count := pair.a.size + pair.b.size + 5
  let start := window.xoff - window.yoff
  let stop := window.xlim - window.ylim
  let front := fun (d value : Int) =>
    { low := d, high := d, reach := Array.replicate count 0 : Front }.set shift d value
  pair.meet window shift ((start - stop) % 2 ≠ 0) count (front start window.xoff) (front stop window.xlim)

/-- The lines that have to be taken out and put in, as flags for either sequence. -/
def Pair.compare (pair : Pair) : Nat → Window → Array Bool × Array Bool → Array Bool × Array Bool
  | 0, _, flags => flags
  | fuel + 1, window, flags =>
    let size := pair.a.size + pair.b.size + 1
    let x := pair.slide window size window.xoff window.yoff
    let window := { window with xoff := x, yoff := window.yoff + (x - window.xoff) }
    let x := pair.slideBack window size window.xlim window.ylim
    let window := { window with xlim := x, ylim := window.ylim - (window.xlim - x) }
    let mark := fun (flags : Array Bool) (start stop : Int) =>
      (List.range (stop - start).toNat).foldl (fun flags i => flags.set! (start.toNat + i) true) flags
    if window.xoff = window.xlim then (flags.1, mark flags.2 window.yoff window.ylim)
    else if window.yoff = window.ylim then (mark flags.1 window.xoff window.xlim, flags.2)
    else
      let (x, y) := pair.middle window
      let flags := pair.compare fuel { window with xlim := x, ylim := y } flags
      pair.compare fuel { window with xoff := x, yoff := y } flags

/-! ## Lines that are left out -/

inductive Discard where
  | kept
  | gone
  | maybe
  deriving DecidableEq, Repr

def atMost (n : Nat) : Nat → Nat → Nat
  | 0, value => value
  | fuel + 1, value => if n / 4 = 0 then value else atMost (n / 4) fuel (value * 2)

def keepMaybes (run : List Discard) : List Discard :=
  run.map fun discard => if discard = .maybe then .kept else discard

def keepStretches (least : Nat) : Nat → List Discard → List Discard
  | 0, run => run
  | _, [] => []
  | fuel + 1, run =>
    let stretch := run.takeWhile (· = .maybe)
    let rest := run.drop stretch.length
    (if least ≤ stretch.length then keepMaybes stretch else stretch) ++
      match rest with
      | [] => []
      | discard :: rest => discard :: keepStretches least fuel rest

/-- Keeps what may be left out at the start of a run, up to three lines in a row that have no
counterpart, or to the first of them from the ninth on. -/
def keepStart : Nat → Nat → List Discard → List Discard
  | _, _, [] => []
  | place, row, discard :: rest =>
    if 8 ≤ place && discard = .gone then discard :: rest
    else match discard with
      | .maybe => .kept :: keepStart (place + 1) 0 rest
      | .kept => .kept :: keepStart (place + 1) 0 rest
      | .gone => if row = 2 then .gone :: rest else .gone :: keepStart (place + 1) (row + 1) rest

/-- Decides about the lines of a run that begins and ends with lines without a counterpart. -/
def settleRun (run : List Discard) : List Discard :=
  let doubtful := run.countP (· = .maybe)
  if run.length < doubtful * 4 then keepMaybes run
  else
    let least := atMost (run.length / 4) run.length 1 + 1
    let run := keepStart 0 0 (keepStretches least (run.length + 1) run)
    (keepStart 0 0 run.reverse).reverse

def settle : Nat → List Discard → List Discard
  | 0, discards => discards
  | _, [] => []
  | fuel + 1, .kept :: rest => .kept :: settle fuel rest
  | fuel + 1, .maybe :: rest => .kept :: settle fuel rest
  | fuel + 1, discards =>
    let run := discards.takeWhile (· ≠ .kept)
    let rest := discards.drop run.length
    let tail := run.reverse.takeWhile (· = .maybe)
    settleRun (run.take (run.length - tail.length)) ++ keepMaybes tail ++ settle fuel rest

/-- Which lines are left out, given how often each occurs in the other sequence. -/
def discards (lines : Array Nat) (count : Nat → Nat) : List Discard :=
  let many := atMost (lines.size / 64) lines.size 5
  settle (lines.size + 1) (lines.toList.map fun line =>
    if count line = 0 then .gone else if many < count line then .maybe else .kept)

/-! ## Moving changes -/

structure Run where
  changed : Array Bool
  start : Nat
  stop : Nat
  other : Nat
  corresponding : Option Nat := none

def flag (flags : Array Bool) (i : Nat) : Bool := (flags[i]?).getD false

def pastRun (flags : Array Bool) : Nat → Nat → Nat
  | 0, i => i
  | fuel + 1, i => if flag flags i then pastRun flags fuel (i + 1) else i

def runStart (flags : Array Bool) : Nat → Nat
  | 0 => 0
  | i + 1 => if flag flags i then runStart flags i else i + 1

def placeBefore (flags : Array Bool) : Nat → Nat
  | 0 => 0
  | i + 1 => if flag flags i then placeBefore flags i else i

def Run.moveBack (lines : Array Nat) (others : Array Bool) : Nat → Run → Run
  | 0, run => run
  | fuel + 1, run =>
    if run.start ≠ 0 && lines[run.start - 1]? = lines[run.stop - 1]? then
      let changed := (run.changed.set! (run.start - 1) true).set! (run.stop - 1) false
      Run.moveBack lines others fuel
        { run with
          changed
          start := runStart changed (run.start - 1)
          stop := run.stop - 1
          other := placeBefore others run.other }
    else run

def Run.moveOn (lines : Array Nat) (others : Array Bool) : Nat → Run → Run
  | 0, run => run
  | fuel + 1, run =>
    if run.stop < lines.size && lines[run.start]? = lines[run.stop]? then
      let changed := (run.changed.set! run.start false).set! run.stop true
      let stop := pastRun changed lines.size (run.stop + 1)
      let other := pastRun others others.size (run.other + 1)
      Run.moveOn lines others fuel
        { changed
          start := run.start + 1
          stop
          other
          corresponding := if other ≠ run.other + 1 then some stop else run.corresponding }
    else run

def Run.merge (lines : Array Nat) (others : Array Bool) : Nat → Run → Run
  | 0, run => run
  | fuel + 1, run =>
    let size := run.stop - run.start
    let back := run.moveBack lines others lines.size
    let beside := back.other ≠ 0 && flag others (back.other - 1)
    let moved := { back with corresponding := if beside then some back.stop else none }.moveOn lines others
      lines.size
    if moved.stop - moved.start = size then moved else moved.merge lines others fuel

def Run.align (others : Array Bool) : Nat → Run → Run
  | 0, run => run
  | fuel + 1, run =>
    if run.corresponding.any (· < run.stop) then
      Run.align others fuel
        { run with
          changed := (run.changed.set! (run.start - 1) true).set! (run.stop - 1) false
          start := run.start - 1
          stop := run.stop - 1
          other := placeBefore others run.other }
    else run

def shiftFrom (lines : Array Nat) (others : Array Bool) : Nat → Nat → Nat → Array Bool → Array Bool
  | 0, _, _, changed => changed
  | fuel + 1, i, j, changed =>
    if lines.size ≤ i then changed
    else if !flag changed i then
      shiftFrom lines others fuel (i + 1) (pastRun others others.size j + 1) changed
    else
      let run : Run :=
        { changed
          start := i
          stop := pastRun changed lines.size i
          other := pastRun others others.size j }
      let run := (run.merge lines others (lines.size + 1)).align others (lines.size + 1)
      shiftFrom lines others fuel run.stop run.other run.changed

/-! ## The script -/

def changesFrom (first second : Array Bool) : Nat → Nat → Nat → List Change
  | 0, _, _ => []
  | fuel + 1, i, j =>
    if first.size ≤ i && second.size ≤ j then []
    else if flag first i || flag second j then
      let i' := pastRun first first.size i
      let j' := pastRun second second.size j
      ⟨i, i' - i, j, j' - j⟩ :: changesFrom first second fuel (i' + 1) (j' + 1)
    else changesFrom first second fuel (i + 1) (j + 1)

def counts (lines : Array Nat) (most : Nat) : Array Nat :=
  lines.foldl (fun counts line => counts.modify line (· + 1)) (Array.replicate (most + 1) 0)

def searched (lines : Array Nat) (discards : List Discard) : Array (Nat × Nat) :=
  ((lines.toList.zipIdx.zip discards).filterMap fun ((line, i), discard) =>
    if discard = .kept then some (line, i) else none).toArray

/-- Flags for all lines from those for the lines that took part in the search. -/
def spreadFlags (size : Nat) (taking : Array (Nat × Nat)) (flags : Array Bool) : Array Bool :=
  (taking.toList.zip flags.toList).foldl (fun all ((_, i), changed) => all.set! i changed)
    (Array.replicate size true)

def between (first second : Array Nat) : List Change :=
  let most := (first ++ second).foldl max 0
  let firstCounts := counts first most
  let secondCounts := counts second most
  let a := searched first (discards first fun line => (secondCounts[line]?).getD 0)
  let b := searched second (discards second fun line => (firstCounts[line]?).getD 0)
  let pair : Pair := ⟨a.map (·.1), b.map (·.1)⟩
  let window : Window := ⟨0, (a.size : Nat), 0, (b.size : Nat)⟩
  let flags := pair.compare (a.size + b.size + 2) window
    (Array.replicate a.size false, Array.replicate b.size false)
  let firstFlags := spreadFlags first.size a flags.1
  let secondFlags := spreadFlags second.size b flags.2
  let rounds := first.size + second.size + 2
  let firstFlags := shiftFrom first secondFlags rounds 0 0 firstFlags
  let secondFlags := shiftFrom second firstFlags rounds 0 0 secondFlags
  changesFrom firstFlags secondFlags rounds 0 0

def commonStart : List Nat → List Nat → Nat
  | a :: first, b :: second => if a = b then commonStart first second + 1 else 0
  | _, _ => 0

/-- The changes that make the second sequence out of the first, where equal lines at either end
do not take part, except so many next to what does. -/
def trimmed (first second : Array Nat) (horizon : Nat) : List Change :=
  let start := commonStart first.toList second.toList
  let room := min first.size second.size - start
  let stop := min room (commonStart first.toList.reverse second.toList.reverse)
  let start := start - horizon
  let stop := stop - horizon
  (between (first.extract start (first.size - stop)) (second.extract start (second.size - stop))).map
    fun change => { change with first := change.first + start, second := change.second + start }

end Script
end Retrace.Tool.Diff
