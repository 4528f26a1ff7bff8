import Tipy.Tcp.Parser

/-!
# Sequence space

The comparisons of `tipy/protocols/tcp/tcp_seq.py`. Python masks with `0xFF_FF_FF_FF`, which is the
remainder modulo `2 ^ 32`; `last_seq` is not masked, so the comparisons may see numbers outside the
sequence space.
-/

namespace Tipy.Tcp

/-- `True` if `a` is before `b` in sequence space. -/
def seqLt (a b : Int) : Prop := (a - b) % 4294967296 > 0x7FFFFFFF

def seqLeq (a b : Int) : Prop := a = b ∨ seqLt a b

/-- `True` if `a` is after `b` in sequence space. -/
def seqGt (a b : Int) : Prop := a ≠ b ∧ (a - b) % 4294967296 < 0x80000000

def seqGeq (a b : Int) : Prop := a = b ∨ seqGt a b

def seqDiff (a b : Int) : Int := (a - b) % 4294967296

instance (a b : Int) : Decidable (seqLt a b) := inferInstanceAs (Decidable (_ > _))

instance (a b : Int) : Decidable (seqLeq a b) := inferInstanceAs (Decidable (_ ∨ _))

instance (a b : Int) : Decidable (seqGt a b) := inferInstanceAs (Decidable (_ ∧ _))

instance (a b : Int) : Decidable (seqGeq a b) := inferInstanceAs (Decidable (_ ∨ _))

/-- `last_seq`: the last sequence number of the segment, not masked. -/
def lastSeq (p : Segment) : Int :=
  p.syn.toInt + p.fin.toInt + p.seq + p.dlen -
    if p.syn = true ∨ p.fin = true ∨ p.dlen ≠ 0 then 1 else 0

end Tipy.Tcp
