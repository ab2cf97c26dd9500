import Std.Data.TreeMap
import SinkAudit.Pattern.Expr

/-!
# The size of the machine of a pattern

A pattern is only accepted if its matching machine is small enough.  The machine reads bytes: every
state is a fixed record, and a state with many ways on has a table besides.  There are two machines,
one that reads forward and one that reads backward, and neither may go beyond the limit.

The size is found by building: `Machine` counts states and the bytes of their tables, and building
stops as soon as the limit is reached.  Copies of a repeated part are built one by one.

A class beyond ASCII becomes a small machine of its own over the bytes of its characters.

* Forward, equal states are shared.  The states made so far are remembered in a table with a fixed
  number of slots, where a new state drives an old one out of its slot.
* Backward, equal tails are shared in the same way, with fewer slots.

* `Expr.fits`: whether both machines stay within the limit.
-/

namespace SinkAudit

/-! ## Machines -/

/-- The size of a machine: the number of its states, and the bytes of their tables. -/
structure Machine where
  states : Nat
  tables : Nat
  deriving DecidableEq, Repr

namespace Machine

/-- The machine without states. -/
def empty : Machine := ⟨0, 0⟩

/-- The bytes of a state. -/
def stateSize : Nat := 32

/-- The bytes of a way on that bytes decide. -/
def stepSize : Nat := 8

/-- The bytes of a way on that is free. -/
def branchSize : Nat := 4

/-- The bytes that a machine may take. -/
def limit : Nat := 10485760

/-- The bytes of a machine. -/
def size (m : Machine) : Nat := stateSize * m.states + m.tables

/-- The machine, if it is not too large. -/
def checked (m : Machine) : Option Machine :=
  if m.size ≤ limit then some m else none

/-- The machine with more states and ways on. -/
def grow (m : Machine) (states : Nat) (steps : Nat) (branches : Nat) : Option Machine :=
  checked ⟨m.states + states, m.tables + stepSize * steps + branchSize * branches⟩

/-- As many copies of a part as asked for. -/
def copies (part : Machine → Option Machine) : Nat → Machine → Option Machine
  | 0, m => some m
  | n + 1, m =>
    match part m with
    | some m => copies part n m
    | none => none

end Machine

/-! ## Bytes of characters -/

namespace Utf8

/-- A range of bytes. -/
abbrev Span := Nat × Nat

/-- The bytes of a code point. -/
def bytes (n : Nat) : List Nat :=
  (String.utf8EncodeChar (Char.ofNat n)).map (·.toNat)

/-- The last code points that take one byte, two or three. -/
def lengthEnds : List Nat := [0x7F, 0x7FF, 0xFFFF]

/-- The number of code points that share all bytes but the last one, two or three. -/
def blocks : List Nat := [0x40, 0x1000, 0x40000]

/-- Cuts a range of code points where the number of bytes changes. -/
def cutLength? (first last : Nat) : Option (Nat × Nat) :=
  (lengthEnds.find? fun m => first ≤ m && m < last).map fun m => (m, m + 1)

/-- Cuts a range of code points where it is not made of whole blocks. -/
def cutBlock? (first last : Nat) : List Nat → Option (Nat × Nat)
  | [] => none
  | b :: bs =>
    if first / b == last / b then cutBlock? first last bs
    else if first % b != 0 then some ((first / b + 1) * b - 1, (first / b + 1) * b)
    else if last % b != b - 1 then some (last / b * b - 1, last / b * b)
    else cutBlock? first last bs

/-- Where a range of code points has to be cut, so that each byte of its characters has a range of
its own: the last code point before the cut and the first behind it. -/
def cut? (first last : Nat) : Option (Nat × Nat) :=
  if first < CharClass.firstAbove && CharClass.lastBelow < last then
    some (CharClass.lastBelow, CharClass.firstAbove)
  else if last < first then none
  else
    match cutLength? first last with
    | some c => some c
    | none => if last ≤ 0x7F then none else cutBlock? first last blocks

/-- The byte ranges of ranges of code points, one list for each range that needs no cut. `done` are
those before, latest first; `fuel` is at least the number of steps. -/
def spansFrom : Nat → List (List Span) → List (Nat × Nat) → List (List Span)
  | 0, done, _ => done.reverse
  | _ + 1, done, [] => done.reverse
  | fuel + 1, done, (first, last) :: rest =>
    match cut? first last with
    | some (a, b) => spansFrom fuel done ((first, a) :: (b, last) :: rest)
    | none =>
      if last < first then spansFrom fuel done rest
      else spansFrom fuel ((bytes first).zip (bytes last) :: done) rest

/-- The number of steps that one range may take. -/
def stepsPerRange : Nat := 64

/-- The byte ranges of the characters of a class, in order. -/
def spans (s : CharClass) : List (List Span) :=
  spansFrom (stepsPerRange * s.ranges.length + 1) [] s.ranges

/-! ## Tables of slots -/

/-- The start of a hash. -/
def hashStart : UInt64 := 14695981039346656037

/-- Adds a number to a hash. -/
def hashAdd (h : UInt64) (n : Nat) : UInt64 := (h ^^^ n.toUInt64) * 1099511628211

/-! ## Forward -/

/-- A way on: a range of bytes and the number of a state. -/
structure Step where
  span : Span
  next : Nat
  deriving DecidableEq

/-- A state that is not finished: its ways on, latest first, and a range that has no goal yet. -/
structure Node where
  steps : List Step
  last : Option Span

/-- The forward machine of a class while it is built.  The unfinished states stand deepest first. -/
structure Builder where
  machine : Machine
  target : Nat
  nodes : List Node
  slots : Std.TreeMap Nat (List Step × Nat)

/-- The number of slots for states. -/
def stateSlots : Nat := 10000

/-- The slot of a state. -/
def stateSlot (steps : List Step) : Nat :=
  (steps.foldl (fun h s => hashAdd (hashAdd (hashAdd h s.span.1) s.span.2) s.next)
    hashStart).toNat % stateSlots

/-- A node whose open range leads to a state. -/
def Node.close (n : Node) (next : Nat) : Node :=
  match n.last with
  | some s => ⟨⟨s, next⟩ :: n.steps, none⟩
  | none => n

namespace Builder

/-- The number of the state of a finished node: that of an equal one, or a new one. -/
def finish (b : Builder) (n : Node) : Option (Builder × Nat) :=
  let steps := n.steps.reverse
  let slot := stateSlot steps
  let fresh : Option (Builder × Nat) :=
    (b.machine.grow 1 steps.length 0).map fun m =>
      ({ b with machine := m, slots := b.slots.insert slot (steps, b.machine.states) },
        b.machine.states)
  match b.slots[slot]? with
  | some (old, id) => if old = steps then some (b, id) else fresh
  | none => fresh

/-- Finishes the nodes above the first `keep`; the open range of the last that is kept leads to
them. -/
def finishAbove (keep : Nat) (next : Nat) : List Node → Builder → Option Builder
  | [], b => some { b with nodes := [] }
  | n :: up, b =>
    if up.length < keep then some { b with nodes := n.close next :: up }
    else
      match b.finish (n.close next) with
      | some (b, id) => finishAbove keep id up b
      | none => none

/-- The number of nodes from the root whose open ranges are those of a character. -/
def shared : List Node → List Span → Nat
  | n :: ns, s :: ss => if n.last = some s then shared ns ss + 1 else 0
  | _, _ => 0

/-- Adds the byte ranges of a character. -/
def add (b : Builder) (spans : List Span) : Option Builder :=
  let same := shared b.nodes.reverse spans
  match finishAbove (same + 1) b.target b.nodes b with
  | none => none
  | some b =>
    match b.nodes, spans.drop same with
    | n :: up, s :: rest =>
      some { b with
        nodes := rest.foldl (fun ns r => ⟨[], some r⟩ :: ns) ({ n with last := some s } :: up) }
    | _, _ => some b

/-- Adds the byte ranges of many characters. -/
def addAll : List (List Span) → Builder → Option Builder
  | [], b => some b
  | s :: ss, b =>
    match b.add s with
    | some b => addAll ss b
    | none => none

end Builder

/-- The machine with the forward machine of a class. -/
def buildForward (m : Machine) (s : CharClass) : Option Machine :=
  match m.grow 1 0 0 with
  | none => none
  | some m' =>
    match Builder.addAll (spans s) ⟨m', m.states, [⟨[], none⟩], ∅⟩ with
    | none => none
    | some b => (Builder.finishAbove 0 b.target b.nodes b).map (·.machine)

/-! ## Backward -/

/-- The number of slots for tails. -/
def tailSlots : Nat := 1000

/-- A tail: a range of bytes before a state. -/
abbrev Tail := Nat × Span

/-- The slot of a tail. -/
def tailSlot (t : Tail) : Nat :=
  (hashAdd (hashAdd (hashAdd hashStart t.1) t.2.1) t.2.2).toNat % tailSlots

/-- The machine with the tails that it shares. -/
structure Tails where
  machine : Machine
  slots : Std.TreeMap Nat (Tail × Nat)

/-- Adds the byte ranges of a character, one after the other. -/
def Tails.add (x : Tails) (from_ : Nat) : List Span → Option Tails
  | [] => (x.machine.grow 0 0 1).map fun m => { x with machine := m }
  | s :: ss =>
    let key : Tail := (from_, s)
    let slot := tailSlot key
    let known : Option Nat :=
      match x.slots[slot]? with
      | some (old, id) => if old = key then some id else none
      | none => none
    match known with
    | some id => x.add id ss
    | none =>
      match x.machine.grow 1 0 0 with
      | some m =>
        Tails.add ⟨m, x.slots.insert slot (key, x.machine.states)⟩ x.machine.states ss
      | none => none

/-- Adds the byte ranges of many characters, all before the same state. -/
def Tails.addAll (from_ : Nat) : List (List Span) → Tails → Option Tails
  | [], x => some x
  | s :: ss, x =>
    match x.add from_ s with
    | some x => addAll from_ ss x
    | none => none

/-- The machine with the backward machine of a class. -/
def buildBackward (m : Machine) (s : CharClass) : Option Machine :=
  match m.grow 2 0 0 with
  | none => none
  | some m' => (Tails.addAll (m.states + 1) (spans s) ⟨m', ∅⟩).map (·.machine)

end Utf8

/-! ## Words -/

namespace WordTree

/-- A tree for a choice between words, while it is counted: the finished groups of tails in the
present part, latest first, whether a word has ended, and the parts before. -/
structure Parts where
  done : List (List (List Nat)) := []
  current : List (List Nat) := []

/-- The words that go on, in parts that are divided where a word ends. -/
def partsOf (p : Parts) : List (List Nat) → List (List (List Nat))
  | [] => (p.current.reverse :: p.done).reverse
  | [] :: ws =>
    if p.current.isEmpty && !p.done.isEmpty && p.done.all (·.isEmpty) then partsOf p ws
    else partsOf ⟨p.current.reverse :: p.done, []⟩ ws
  | w :: ws => partsOf { p with current := w :: p.current } ws

/-- What follows a first byte, for each first byte of words that are sorted by it; `done` are the
tails for the byte of the word before. -/
def groupsFrom (byte : Nat) (done : List (List Nat)) :
    List (List Nat) → List (List (List Nat))
  | [] => [done.reverse]
  | [] :: ws => groupsFrom byte done ws
  | (b :: w) :: ws =>
    if b = byte then groupsFrom byte (w :: done) ws
    else done.reverse :: groupsFrom b [w] ws

/-- The tails of words for each first byte. -/
def groups (ws : List (List Nat)) : List (List (List Nat)) :=
  match ws.mergeSort fun v w => v.headD 0 ≤ w.headD 0 with
  | (b :: w) :: ws => groupsFrom b [w] ws
  | _ => []

/-- The machine with the tree of words; `fuel` is more than the length of the longest. -/
def build : Nat → List (List Nat) → Machine → Option Machine
  | 0, _, m => some m
  | fuel + 1, words, m =>
    let parts := (partsOf {} words).map groups
    let built := parts.foldl (fun m gs =>
      gs.foldl (fun m g => if g.all (·.isEmpty) then m else m.bind (build fuel g)) m) (some m)
    let full := parts.filter (!·.isEmpty)
    let steps := full.foldl (fun n gs => if gs.length = 1 then n else n + gs.length) 0
    let branches := full.length + (parts.length - 1)
    built.bind fun m =>
      if branches = 1 then m.grow full.length steps 0
      else m.grow (full.length + 1) steps branches

end WordTree

/-! ## Patterns -/

namespace Expr

/-- The bytes of a text. -/
def textBytes (s : List Char) : List Nat :=
  s.flatMap fun c => Utf8.bytes c.toNat

/-- The words of a choice between words. -/
def words? (done : List (List Nat)) : List Expr → Option (List (List Nat))
  | [] => some done.reverse
  | literal s :: es => words? (textBytes s :: done) es
  | _ => none

/-- The machine with the tree of words. -/
def buildWords (backward : Bool) (ws : List (List Nat)) (m : Machine) : Option Machine :=
  let ws := if backward then ws.map (·.reverse) else ws
  match m.grow 1 0 0 with
  | some m => WordTree.build (ws.foldl (fun n w => max n w.length) 0 + 1) ws m
  | none => none

/-- The machine with that of a class. -/
def buildClass (backward : Bool) (s : CharClass) (m : Machine) : Option Machine :=
  if s.isAscii then m.grow 2 s.ranges.length 0
  else if backward then Utf8.buildBackward m s
  else Utf8.buildForward m s

/-- The machine with that of a repetition, given what adds the part that is repeated.  `solid` says
that the part never matches the empty text. -/
def buildRepetition (solid : Bool) (least : Nat) (most : Option Nat)
    (part : Machine → Option Machine) (m : Machine) : Option Machine :=
  match least, most with
  | 0, some 1 => (m.grow 1 0 0).bind part |>.bind (·.grow 1 0 2)
  | 0, none =>
    if solid then (m.grow 1 0 0).bind part |>.bind (·.grow 0 0 2)
    else (part m).bind (·.grow 3 0 4)
  | n + 1, none => (Machine.copies part (n + 1) m).bind (·.grow 1 0 2)
  | n, some k =>
    let front := if n = 0 then m.grow 1 0 0 else Machine.copies part n m
    if n = k then front
    else
      front.bind (·.grow 1 0 0)
        |>.bind (Machine.copies (fun m => (m.grow 1 0 2).bind part) (k - n))

mutual

/-- The machine with that of a pattern. -/
def build (backward : Bool) : Expr → Machine → Option Machine
  | empty, m => m.grow 1 0 0
  | literal s, m => m.grow (textBytes s).length 0 0
  | set s, m => buildClass backward s m
  | look _, m => m.grow 1 0 0
  | repetition least most _ e, m =>
    buildRepetition e.isSolid least most (fun m => build backward e m) m
  | capture _ e, m =>
    if backward then build backward e m
    else (m.grow 1 0 0).bind (fun m => build backward e m) |>.bind (·.grow 1 0 0)
  | concat es, m => if backward then buildBackward es m else buildForward es m
  | choice es, m =>
    match words? [] es with
    | some ws => buildWords backward ws m
    | none => buildBranches backward 0 es m

/-- The machine with those of a sequence. -/
def buildForward : List Expr → Machine → Option Machine
  | [], m => some m
  | e :: es, m =>
    match build false e m with
    | some m => buildForward es m
    | none => none

/-- The machine with those of a sequence, the last first. -/
def buildBackward : List Expr → Machine → Option Machine
  | [], m => some m
  | e :: es, m =>
    match buildBackward es m with
    | some m => build true e m
    | none => none

/-- The machine with those of the branches of a choice.  The states that hold the branches together
come after the second branch. -/
def buildBranches (backward : Bool) (count : Nat) : List Expr → Machine → Option Machine
  | [], m => some m
  | e :: es, m =>
    match (build backward e m).bind (·.grow (if count = 1 then 2 else 0) 0 1) with
    | some m => buildBranches backward (count + 1) es m
    | none => none

end

/-- The machine before a pattern: a loop over what comes before a match, unless all matches stand at
the edge of the text. -/
def front (anchored : Bool) : Machine := if anchored then ⟨1, 0⟩ else ⟨3, 16⟩

/-- The forward machine of a pattern. -/
def forward? (e : Expr) : Option Machine :=
  (build false (capture 0 e) (front (e.beginsWith .textStart))).bind (·.grow 1 0 0)

/-- The backward machine of a pattern. -/
def backward? (e : Expr) : Option Machine :=
  (build true e (front (e.endsWith .textEnd))).bind (·.grow 1 0 0)

/-- Whether both machines of a pattern are small enough. -/
def fits (e : Expr) : Bool := e.forward?.isSome && e.backward?.isSome

end Expr

end SinkAudit
