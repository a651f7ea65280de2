import PathRouter.Regex.Program
/-!
# Search by order of preference

A thread stands at an instruction and at a place of the text and carries the ends of groups it has passed.  `run`
follows the threads of a stack from the top: depth first, so the first thread to accept is the one of highest
preference.  A pair of instruction and place is entered once.  That loses nothing, because what lies behind a pair does
not depend on how it was reached, and it ends every loop that consumes no character.

The search for a match anywhere in the text starts one thread at every place, earlier places first.
-/
namespace PathRouter.Regex

/-- The ends of groups passed so far, by slot. -/
abbrev Slots := List (Option Nat)

structure Thread where
  pc : Nat
  pos : Nat
  slots : Slots
deriving Repr, DecidableEq

/-- The threads that follow `t`, preferred ones first; none if it stops here. -/
def Thread.next (prog : Array Instr) (text : Array Char) (t : Thread) : List Thread :=
  match prog[t.pc]? with
  | some (.jump n) => [{ t with pc := n }]
  | some (.read s n) =>
    match text[t.pos]? with
    | some c => if s.mem c then [{ t with pc := n, pos := t.pos + 1 }] else []
    | none => []
  | some (.check a n) =>
    let before := if t.pos = 0 then none else text[t.pos - 1]?
    if a.holds before text[t.pos]? then [{ t with pc := n }] else []
  | some (.fork a b) => [{ t with pc := a }, { t with pc := b }]
  | some (.mark k n) => [{ t with pc := n, slots := t.slots.set k (some t.pos) }]
  | some .accept | none => []

def Thread.accepts (prog : Array Instr) (t : Thread) : Bool :=
  match prog[t.pc]? with
  | some .accept => true
  | _ => false

/-- Where the pair of instruction and place is noted. -/
def Thread.key (prog : Array Instr) (t : Thread) : Nat :=
  t.pos * prog.size + t.pc

/-- Follows the stack until a thread accepts; `seen` notes the pairs already entered. -/
def run (prog : Array Instr) (text : Array Char) (seen : Array Bool) : List Thread → Option Slots
  | [] => none
  | t :: rest =>
    if h : t.key prog < seen.size then
      if hs : seen[t.key prog] = true then run prog text seen rest
      else if t.accepts prog then some t.slots
      else
        have : (seen.set (t.key prog) true).countP (! ·) < seen.countP (! ·) := by
          have hpos : 0 < seen.countP (! ·) :=
            Array.countP_pos_iff.2 ⟨seen[t.key prog], Array.getElem_mem h, by simpa using hs⟩
          rw [Array.countP_set, if_pos (by simpa using hs), if_neg (by simp)]
          omega
        run prog text (seen.set (t.key prog) true) (t.next prog text ++ rest)
    else run prog text seen rest
termination_by stack => (seen.countP (! ·), stack.length)

/-- The slots of the preferred match among those that start earliest. -/
def search (prog : Array Instr) (slotCount : Nat) (text : Array Char) : Option Slots :=
  run prog text (Array.replicate (prog.size * (text.size + 1)) false)
    ((List.range (text.size + 1)).map (fun i => ⟨0, i, List.replicate slotCount none⟩))

end PathRouter.Regex
