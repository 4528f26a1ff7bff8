import Tipy.Wire.Layout
import Tipy.Tcp.Options

/-!
# The options of a segment that is sent

`TCPOptBuilder` fills a list of NOP and MSS options up to a multiple of 4 bytes with one
`TCPOptEOL`, and that option can only be built when it has one byte. So lists that need two or three
bytes of padding do not come through `TCPBuilder.build` (`tcpOptions_sent_iff`); all others do, and
`TCPParser` finds the area padded with zeros, the payload behind it, and the MSS if it is there.
-/

namespace Tipy.Wire

open Tipy.Tcp

/-- NOP and MSS options, as a sender gives them. -/
def SenderOptions (opts : List TCPOpt) : Prop := ∀ o ∈ opts, o = .nop ∨ o = .mss

instance (opts : List TCPOpt) : Decidable (SenderOptions opts) :=
  inferInstanceAs (Decidable (∀ o ∈ opts, _))

/-- `_tcp_opt_padding`: the number of bytes that are missing. -/
def optPad (opts : List TCPOpt) : Nat := (4 - tcpOptLen opts % 4) % 4

/-- The options with their padding. -/
def padded (opts : List TCPOpt) : List TCPOpt :=
  if optPad opts ≠ 0 then opts ++ [.eol (optPad opts)] else opts

/-- What is on the frame behind the fixed header, and what the parser makes of the segment: the area
is padded with zeros to a multiple of 4 bytes, the data offset points behind it, where the payload
is, and the MSS is found when it was among the options. -/
structure OptionsSent (opts : List TCPOpt) (data frame : List UInt8) (len : Nat) : Prop where
  area : ∃ rest, frame.drop 20 = opts.flatMap TCPOpt.bytes ++ zeros (optPad opts) ++
    data ++ zeros rest
  aligned : 4 ∣ tcpOptLen opts + optPad opts
  doff : ∀ q : TCPParser, q.frame = frame.take len → q.doff = 20 + (tcpOptLen opts + optPad opts)
  data : ∀ q : TCPParser, q.frame = frame.take len → q.data = data
  options : ∀ q : TCPParser, q.frame = frame.take len →
    q.options = .ok (if .mss ∈ opts then some MSS else none)

/-- `TCPOptBuilder` takes the options, and the segment with them is built on a frame of `n` zeros.
-/
def SentWith (b : TCPBuilder) (opts : List TCPOpt) (n phsum : Nat) : Prop :=
  ∃ options frame, tcpOptBuilder opts = .ok options ∧
    { b with options }.build (zeros n) phsum = .ok frame ∧
    OptionsSent opts b.data frame { b with options }.len

/-! ## The padding -/

theorem optPad_aligned (opts : List TCPOpt) : 4 ∣ tcpOptLen opts + optPad opts := by
  unfold optPad
  omega

theorem optPad_le (opts : List TCPOpt) : optPad opts ≤ 3 := by
  unfold optPad
  omega

theorem tcpOptBuilder_eq {opts : List TCPOpt} (h : tcpOptLen opts ≤ 40) :
    tcpOptBuilder opts = .ok (padded opts) := if_neg (Nat.not_lt.2 h)

theorem padded_bytes (opts : List TCPOpt) :
    (padded opts).flatMap TCPOpt.bytes = opts.flatMap TCPOpt.bytes ++ zeros (optPad opts) := by
  unfold padded
  split
  · simp [TCPOpt.bytes]
  · next h => simp [not_not.1 h, zeros]

theorem tcpOptLen_padded (opts : List TCPOpt) :
    tcpOptLen (padded opts) = tcpOptLen opts + optPad opts := by
  rw [← length_flatMap_bytes, padded_bytes, List.length_append, length_flatMap_bytes, length_zeros]

theorem padded_packs {opts : List TCPOpt} (h : SenderOptions opts) (hpad : optPad opts ≤ 1) :
    ∀ o ∈ padded opts, o.Packs := by
  have hopts : ∀ o ∈ opts, o.Packs := by
    intro o ho
    rcases h o ho with rfl | rfl <;> trivial
  unfold padded
  split
  · next hne =>
    intro o ho
    rcases List.mem_append.1 ho with ho | ho
    · exact hopts o ho
    · obtain rfl := List.mem_singleton.1 ho
      show optPad opts = 1
      omega
  · exact hopts

/-- EOL with another count than 1 is not built, whatever stands before it. -/
theorem tcpOptBuild_eol {count : Nat} (h : count ≠ 1) (options : List TCPOpt)
    (frame frame' : List UInt8) (offset : Nat) :
    tcpOptBuild frame offset (options ++ [.eol count]) ≠ .ok frame' := by
  induction options generalizing frame offset with
  | nil =>
    rw [List.nil_append, tcpOptBuild, TCPOpt.build, if_neg h]
    intro hok
    cases hok
  | cons o options ih =>
    rw [List.cons_append, tcpOptBuild]
    cases o.build frame offset with
    | error e =>
      intro hok
      cases hok
    | ok frame => exact ih frame _

theorem TCPBuilder.build_options_ok {b : TCPBuilder} {frame frame' : List UInt8} {phsum : Nat}
    (h : b.build frame phsum = .ok frame') :
    ∃ before after, tcpOptBuild before 20 b.options = .ok after := by
  simp only [TCPBuilder.build, bind, Except.bind] at h
  split at h
  · cases h
  · next before _ =>
    cases hopts : tcpOptBuild before 20 b.options with
    | error e => rw [hopts] at h; cases h
    | ok after => exact ⟨before, after, hopts⟩

/-! ## What the parser finds -/

/-- An option as the parser is to find it. -/
def TCPOpt.option : TCPOpt → TcpOption
  | .mss => .mss MSS
  | _ => .nop

theorem SenderOptions.bytes {opts : List TCPOpt} (h : SenderOptions opts) :
    (opts.map TCPOpt.option).flatMap TcpOption.bytes = opts.flatMap TCPOpt.bytes := by
  rw [List.flatMap_map]
  refine List.flatMap_congr fun o ho => ?_
  rcases h o ho with rfl | rfl <;> rfl

/-- All MSS options of a sender have the same value. -/
theorem lastMss_option (opts : List TCPOpt) :
    lastMss (opts.map TCPOpt.option) = if .mss ∈ opts then some MSS else none := by
  have hor (seen : Option Nat) : (lastMss (opts.map TCPOpt.option)).or seen =
      if .mss ∈ opts then some MSS else seen := by
    induction opts generalizing seen with
    | nil => rfl
    | cons o opts ih =>
      cases o with
      | mss =>
        rw [List.map_cons, TCPOpt.option, lastMss_or_mss, ih, ite_self, if_pos List.mem_cons_self]
      | nop =>
        simp only [List.map_cons, List.mem_cons, reduceCtorEq, false_or]
        exact ih seen
      | eol count =>
        simp only [List.map_cons, List.mem_cons, reduceCtorEq, false_or]
        exact ih seen
  rw [← hor none, Option.or_none]

/-- The padded area, as one that the parser may meet. -/
def paddedArea (opts : List TCPOpt) : OptionArea where
  opts := opts.map TCPOpt.option
  tail := zeros (optPad opts)
  wellFormed := by
    intro o ho
    obtain ⟨o, -, rfl⟩ := List.mem_map.1 ho
    cases o with
    | mss => exact (by decide : MSS < 65536)
    | nop => trivial
    | eol count => trivial
  tail_eol := by
    cases optPad opts with
    | zero => exact .inl rfl
    | succ k => exact .inr rfl

theorem paddedArea_read {opts : List TCPOpt} {q : TCPParser} {payload : List UInt8}
    (h : (paddedArea opts).Placed q payload) :
    q.options = .ok (if .mss ∈ opts then some MSS else none) := by
  have hread := (options_read_iff h).2 (harmless_of_unmarked fun kind data hmem => by
    obtain ⟨o, -, ho⟩ := List.mem_map.1 hmem
    cases o <;> cases ho)
  rw [hread, ← lastMss_option]
  rfl

/-- The data offset is read from where it was packed. -/
theorem TCPBuilder.doff_of_front {b : TCPBuilder} {q : TCPParser} {rest : List UInt8}
    (hdoff : b.doff ≤ 15) (hq : q.frame = b.front ++ rest) : q.doff = b.doff * 4 := by
  have hlt := b.flags_lt
  have hdrop : q.frame.drop 12 = UInt8.ofNat ((b.doff <<< 12 ||| b.flags) / 256) ::
      (UInt8.ofNat ((b.doff <<< 12 ||| b.flags) % 256) :: (be16 b.window ++ rest)) := by
    rw [hq]
    rfl
  rw [doff_flags] at hdrop
  rw [TCPParser.doff, byteAt_of_drop hdrop (by omega), Nat.shiftRight_eq_div_pow]
  omega

section Sent

variable {b : TCPBuilder} {opts : List TCPOpt} {n phsum : Nat}

/-- A segment with the padded area in it. -/
theorem optionsSent_of_area (hopts : SenderOptions opts) (hlen : tcpOptLen opts ≤ 40)
    (hdoff : b.doff * 4 = 20 + (tcpOptLen opts + optPad opts)) (c rest : Nat) :
    OptionsSent opts b.data (b.front ++ be16 c ++
      (be16 b.urgPtr ++ (opts.flatMap TCPOpt.bytes ++ zeros (optPad opts)) ++ b.data) ++ zeros rest)
      b.len := by
  have haligned := optPad_aligned opts
  have hpad := optPad_le opts
  generalize harea : opts.flatMap TCPOpt.bytes ++ zeros (optPad opts) = area
  have hareaLen : area.length = tcpOptLen opts + optPad opts := by
    rw [← harea, List.length_append, length_flatMap_bytes, length_zeros]
  generalize hseg : b.front ++ be16 c ++ (be16 b.urgPtr ++ area ++ b.data) = seg
  have hsegLen : seg.length = b.len := by
    rw [← hseg, TCPBuilder.len, hdoff]
    simp [TCPBuilder.length_front, hareaLen]
    omega
  have hdrop : seg.drop 20 = area ++ b.data := by
    rw [← hseg]
    rfl
  have hread (q : TCPParser) (hq : q.frame = (seg ++ zeros rest).take b.len) :
      q.frame = seg ∧ q.doff = 20 + (tcpOptLen opts + optPad opts) := by
    rw [List.take_left' hsegLen] at hq
    have hfront : q.frame = b.front ++ (be16 c ++ (be16 b.urgPtr ++ area ++ b.data)) := by
      rw [hq, ← hseg, List.append_assoc]
    exact ⟨hq, (TCPBuilder.doff_of_front (by omega) hfront).trans hdoff⟩
  exact {
    area := by
      have hlong : 20 ≤ seg.length := by
        rw [hsegLen, TCPBuilder.len]
        omega
      exact ⟨rest, by rw [List.drop_append_of_le_length hlong, hdrop, harea]⟩
    aligned := haligned
    doff := fun q hq => (hread q hq).2
    data := by
      intro q hq
      rw [TCPParser.data, (hread q hq).1, (hread q hq).2, ← List.drop_drop, hdrop, ← hareaLen,
        List.drop_left]
    options := by
      intro q hq
      have harea' :
        (paddedArea opts).bytes = area := by rw [OptionArea.bytes, ← harea, ← hopts.bytes]; rfl
      have hplaced : (paddedArea opts).Placed q b.data := by
        refine ⟨?_, ?_⟩
        · rw [(hread q hq).1, hdrop, harea']
        · rw [(hread q hq).2, harea', hareaLen]
      exact paddedArea_read hplaced }

theorem sentWith_of_pad (hb : b.InRange) (hopts : SenderOptions opts) (hlen : tcpOptLen opts ≤ 40)
    (hpad : optPad opts ≤ 1) (hn : 20 + (tcpOptLen opts + optPad opts) + b.data.length ≤ n) :
    SentWith b opts n phsum := by
  let b' : TCPBuilder := { b with options := padded opts }
  have hb' : b'.InRange := ⟨hb.src, hb.dst, hb.seq, hb.ackSeq, hb.window, hb.urgPtr⟩
  have haligned := optPad_aligned opts
  have hsum : tcpOptLen b'.options = tcpOptLen opts + optPad opts := tcpOptLen_padded opts
  have hdoff : b'.doff * 4 = 20 + (tcpOptLen opts + optPad opts) := by
    rw [TCPBuilder.doff, hsum]
    split <;> omega
  obtain ⟨rest, hrest⟩ := Nat.exists_eq_add_of_le hn
  have hroom : n = 20 + tcpOptLen b'.options + b'.data.length + rest := by rw [hsum, hrest]
  have hbuild := TCPBuilder.build_options hb' (by omega) (padded_packs hopts hpad) hroom rfl phsum
  rw [padded_bytes] at hbuild
  exact ⟨padded opts, _, tcpOptBuilder_eq hlen, hbuild, optionsSent_of_area hopts hlen hdoff _ rest⟩

/-- **The round trip**: the options are sent and read back if and only if at most one byte of
padding is missing. -/
theorem tcpOptions_sent_iff (hb : b.InRange) (hopts : SenderOptions opts)
    (hlen : 1 ≤ tcpOptLen opts ∧ tcpOptLen opts ≤ 40)
    (hn : 20 + (tcpOptLen opts + optPad opts) + b.data.length ≤ n) :
    SentWith b opts n phsum ↔ tcpOptLen opts % 4 = 0 ∨ tcpOptLen opts % 4 = 3 := by
  have hpad : tcpOptLen opts % 4 = 0 ∨ tcpOptLen opts % 4 = 3 ↔ optPad opts ≤ 1 := by
    unfold optPad
    omega
  rw [hpad]
  constructor
  · rintro ⟨options, frame, hbuilder, hbuild, -⟩
    by_contra hmore
    rw [tcpOptBuilder_eq hlen.2] at hbuilder
    cases hbuilder
    obtain ⟨before, after, hok⟩ := TCPBuilder.build_options_ok hbuild
    rw [padded, if_pos (by omega)] at hok
    exact tcpOptBuild_eol (by omega) opts before after 20 hok
  · exact fun hpad => sentWith_of_pad hb hopts hlen.2 hpad hn

end Sent

/-- A SYN from port 1234 to port 80, without options. -/
def bareSyn : TCPBuilder where
  src := 1234
  dst := 80
  seq := 0
  ackSeq := 0
  cwr := false
  ece := false
  urg := false
  ack := false
  psh := false
  rst := false
  syn := true
  fin := false
  window := 65535
  urgPtr := 0
  options := []
  data := []

theorem bareSyn_inRange : bareSyn.InRange := by
  constructor <;> decide

theorem tcpOptions_sent_iff_one : SentWith bareSyn [.mss, .nop, .nop, .nop] 28 0 :=
  (tcpOptions_sent_iff bareSyn_inRange (by decide) (by decide) (by decide)).2 (.inr rfl)

/-- One NOP is filled up with three bytes, and the segment with it is not built. -/
theorem tcpOptions_nop_unsent :
    tcpOptBuilder [.nop] = .ok [.nop, .eol 3] ∧
      { bareSyn with options := [.nop, .eol 3] }.build (zeros 24) 0 = .error .structError ∧
      ¬ SentWith bareSyn [.nop] 24 0 := by
  have hraise : { bareSyn with options := [.nop, .eol 3] }.build (zeros 24) 0 =
    .error .structError := rfl
  refine ⟨rfl, hraise, ?_⟩
  rintro ⟨options, frame, hbuilder, hbuild, -⟩
  cases hbuilder
  exact absurd (hraise.symm.trans hbuild) nofun

end Tipy.Wire
