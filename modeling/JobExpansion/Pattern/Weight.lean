import JobExpansion.Pattern.Reader
import Std.Data.HashMap

/-!
# The size of a compiled pattern

A pattern is refused when its automaton over UTF-8 bytes would take more than ten mebibytes.
`Weight` counts the states of that automaton and the bytes its transitions take; a counted
repetition takes the room of all its copies. The automaton is needed in both directions, and
each has to fit.
-/

namespace JobExpansion

/-- The states of an automaton and the bytes that their transitions take. -/
structure Weight where
  states : Nat
  extra : Nat
  deriving Repr, DecidableEq

namespace Weight

instance : Add Weight := ⟨fun a b => ⟨a.states + b.states, a.extra + b.extra⟩⟩

/-- Several copies. -/
def times (n : Nat) (w : Weight) : Weight := ⟨n * w.states, n * w.extra⟩

/-- The bytes that an automaton takes. -/
def bytes (w : Weight) : Nat := 32 * w.states + w.extra

/-- A state with this many alternatives. -/
def choice (n : Nat) : Weight := ⟨1, 4 * n⟩

/-- States with at most one transition. -/
def plain (n : Nat) : Weight := ⟨n, 0⟩

end Weight

/-! ### Ranges of code points as ranges of bytes -/

namespace Utf8Ranges

/-- The bytes of a code point. -/
def encode (n : Nat) : List Nat :=
  if n < 0x80 then [n]
  else if n < 0x800 then [0xC0 + n / 64, 0x80 + n % 64]
  else if n < 0x10000 then [0xE0 + n / 4096, 0x80 + n / 64 % 64, 0x80 + n % 64]
  else [0xF0 + n / 262144, 0x80 + n / 4096 % 64, 0x80 + n / 64 % 64, 0x80 + n % 64]

/-- A range cut where the number of bytes changes or a trailing byte does not cover all values. -/
def cut? (first last : Nat) : Option Nat :=
  let atLength := [0x7F, 0x7FF, 0xFFFF].find? fun m => first ≤ m ∧ m < last
  if atLength.isSome then atLength
  else if last < 0x80 then none
  else
    [64, 4096, 262144].findSome? fun unit =>
      if first / unit = last / unit then none
      else if first % unit ≠ 0 then some (first / unit * unit + unit - 1)
      else if last % unit ≠ unit - 1 then some (last / unit * unit - 1)
      else none

/-- Sequences of byte ranges that together cover a range of code points, in rising order. -/
def sequences : Nat → Nat → Nat → List (List (Nat × Nat))
  | 0, _, _ => []
  | fuel + 1, first, last =>
    match cut? first last with
    | some m => sequences fuel first m ++ sequences fuel (m + 1) last
    | none => [(encode first).zip (encode last)]

/-- The sequences for a class. -/
def ofRanges (ranges : List (Nat × Nat)) : List (List (Nat × Nat)) :=
  ranges.flatMap fun (a, b) => sequences 32 a b

/-- The distinct nodes met so far. -/
abbrev Nodes := Std.HashMap (List (Nat × Nat × Nat)) Nat

/-- Sequences that start with the same range, under that range. -/
def byHead (seqs : List (List (Nat × Nat))) : List ((Nat × Nat) × List (List (Nat × Nat))) :=
  (seqs.foldl (fun acc seq =>
    match seq with
    | [] => acc
    | r :: rest =>
      match acc with
      | (r', rests) :: acc' => if r = r' then (r', rest :: rests) :: acc' else (r, [rest]) :: acc
      | [] => [(r, [rest])]) []).reverse.map fun (r, rests) => (r, rests.reverse)

/-- The node for a set of sequences, equal sets sharing one node; 0 is the end. -/
def share : Nat → List (List (Nat × Nat)) → Nodes → Nat × Nodes
  | 0, _, nodes => (0, nodes)
  | fuel + 1, seqs, nodes =>
    if seqs.all List.isEmpty then (0, nodes)
    else
      let (edges, nodes) := (byHead seqs).foldl (fun (edges, nodes) (r, rests) =>
        let (child, nodes) := share fuel rests nodes
        ((r.1, r.2, child) :: edges, nodes)) ([], nodes)
      match nodes[edges]? with
      | some id => (id, nodes)
      | none => (nodes.size + 1, nodes.insert edges (nodes.size + 1))

/-- The automaton that reads a character of a class from its first byte on. -/
def forward (seqs : List (List (Nat × Nat))) : Weight :=
  let nodes := (share 5 seqs ∅).2
  let edges := nodes.toList.foldl
    (fun n (edges, _) => n + if edges.length = 1 then 0 else edges.length) 0
  ⟨nodes.size + 1, 8 * edges⟩

/-- The automaton that reads a character of a class from its last byte on. -/
def backward (seqs : List (List (Nat × Nat))) : Weight :=
  let heads := seqs.flatMap fun seq => (List.range seq.length).map fun i => seq.take (i + 1)
  let distinct :=
    (heads.foldl (fun (s : Std.HashMap (List (Nat × Nat)) Unit) h => s.insert h ()) ∅).size
  ⟨distinct + 2, 4 * seqs.length⟩

end Utf8Ranges

namespace CharClass

/-- The automaton for one character of a class. -/
def weight (c : CharClass) (reverse : Bool) : Weight :=
  let exact (ranges : List (Nat × Nat)) : Weight :=
    match ranges with
    | [] => .plain 1
    | [(a, b)] =>
      if a = b then .plain (Utf8Ranges.encode a).length
      else if b < 128 then .plain 2
      else
        let seqs := Utf8Ranges.ofRanges ranges
        if reverse then Utf8Ranges.backward seqs else Utf8Ranges.forward seqs
    | _ =>
      if ranges.all (·.2 < 128) then ⟨2, 8 * ranges.length⟩
      else
        let seqs := Utf8Ranges.ofRanges ranges
        if reverse then Utf8Ranges.backward seqs else Utf8Ranges.forward seqs
  match c with
  | .range a b => exact [(a, b)]
  | c => exact c.ranges

/-- A weight that no class exceeds. -/
def largestWeight : Weight := .plain 6000

end CharClass

namespace Regex

/-- The expression matches only between characters. -/
def neverConsumes : Regex → Bool
  | .empty | .look _ => true
  | .chars _ => false
  | .seq a b | .alt a b => a.neverConsumes && b.neverConsumes
  | .rep a _ max => max = some 0 || a.neverConsumes
  | .capture a => a.neverConsumes

/-- The expression may match without a character. -/
def mayBeEmpty : Regex → Bool
  | .empty | .look _ => true
  | .chars _ => false
  | .seq a b => a.mayBeEmpty && b.mayBeEmpty
  | .alt a b => a.mayBeEmpty || b.mayBeEmpty
  | .rep a min _ => min = 0 || a.mayBeEmpty
  | .capture a => a.mayBeEmpty

/-- The automaton of a repetition. -/
def repetitionWeight (empty : Bool) (w : Weight) (min : Nat) (max : Option Nat) : Weight :=
  match min, max with
  | 0, some 0 => .plain 1
  | 1, some 1 => w
  | 0, some 1 => w + .choice 2 + .plain 1
  | 0, none => if empty then w + .choice 2 + .choice 2 + .plain 1 else w + .choice 2
  | min, none => w.times min + .choice 2
  | min, some max =>
    if min = max then w.times min
    else (if min = 0 then .plain 1 else w.times min) + .plain 1 + (w + .choice 2).times (max - min)

/-- The automaton of an expression, given those of classes. -/
def weight (ofClass : CharClass → Weight) (reverse : Bool) : Regex → Weight
  | .empty => .plain 1
  | .chars c => ofClass c
  | .look _ => .plain 1
  | .seq a b => a.weight ofClass reverse + b.weight ofClass reverse
  | .alt a b => a.weight ofClass reverse + b.weight ofClass reverse + .choice 2
  | .rep a min max =>
    let w := a.weight ofClass reverse
    -- what matches only between characters needs no second copy
    if a.neverConsumes then repetitionWeight true w (Nat.min min 1) (max.map (Nat.min · 1))
    else repetitionWeight a.mayBeEmpty w min max
  | .capture a => a.weight ofClass reverse + (if reverse then .plain 0 else .plain 2)

/-- The most bytes an automaton may take. -/
def sizeLimit : Nat := 10 * Nat.pow 2 20

/-- The automata of the expression fit. -/
def fits (r : Regex) : Bool :=
  (r.weight (fun c => match c with
    | .range a b => CharClass.weight (.range a b) false
    | _ => CharClass.largestWeight) false).bytes ≤ sizeLimit
  || ((r.weight (·.weight false) false).bytes ≤ sizeLimit
    && (r.weight (·.weight true) true).bytes ≤ sizeLimit)

end Regex

end JobExpansion
