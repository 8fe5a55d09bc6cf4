/-! Sets of characters, given by their runs of code points. -/

namespace ScriptValues

def inRunsBetween (runs : Array (Nat × Nat)) (code : Nat) : Nat → Nat → Nat → Bool
  | 0, _, _ => false
  | steps + 1, low, high =>
      if high ≤ low then false
      else
        let middle := (low + high) / 2
        let run := runs.getD middle (0, 0)
        if code < run.1 then inRunsBetween runs code steps low middle
        else if run.2 < code then inRunsBetween runs code steps (middle + 1) high
        else true

/-- Whether a character lies in one of the runs, each given by its first and last code point. The
runs are in increasing order. -/
def inRuns (runs : Array (Nat × Nat)) (c : Char) : Bool :=
  inRunsBetween runs c.toNat runs.size 0 runs.size

end ScriptValues
