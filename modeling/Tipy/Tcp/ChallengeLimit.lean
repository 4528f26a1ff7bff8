import Tipy.Lib.TokenBucket
import Tipy.Tcp.Frame
import Tipy.Tcp.Usrreq

/-!
# The rate limit of challenge ACKs

`_send_challenge_ack` keeps a token bucket in the control block: 100 tokens, five more for each
whole second. No other function touches it, so between two calls anything may happen to the
connection that leaves the bucket alone and does not turn the clock back (`ChallengeCalls`).
-/

namespace Tipy.Tcp

open Tipy.Lib

/-- The rule of `_send_challenge_ack`. -/
def challengeRule : BucketRule where
  cap := MAX_TCP_CHALLENGE_ACK_LIMIT
  rate := TCP_CHALLENGE_ACK_RATE_HZ
  period := 1000000000
  rate_nonneg := by decide
  period_pos := by decide

/-- The fields of the control block as a bucket. -/
def Challenge.bucket (x : Challenge) : Bucket := ⟨x.challengeAckLimit, x.lastChallengeAckTimestamp⟩

namespace Conn

variable (c : Conn)

/-- The number of segments that `_send_challenge_ack` hands to `tx_tcp`. -/
def challengeAcks : Nat := c.sendChallengeAck.core.out.length - c.core.out.length

theorem refillChallenge_bucket (x : Challenge) (now : Int) :
    (refillChallenge x now).bucket = challengeRule.refill x.bucket now := by
  unfold refillChallenge BucketRule.refill
  simp only
  by_cases h : 0 < (now - x.lastChallengeAckTimestamp) / 1000000000
  · rw [if_pos h]
    exact (if_pos h).symm
  · rw [if_neg h]
    exact (if_neg h).symm

/-- **A call is a request** to the bucket, and what it is granted is sent. -/
theorem sendChallengeAck_request :
    c.sendChallengeAck.tcb.challenge.bucket =
        (challengeRule.request c.tcb.challenge.bucket c.core.nowNs).1 ∧
      c.challengeAcks = (challengeRule.request c.tcb.challenge.bucket c.core.nowNs).2 := by
  have hrefill := refillChallenge_bucket c.tcb.challenge c.core.nowNs
  have htokens : (refillChallenge c.tcb.challenge c.core.nowNs).challengeAckLimit =
      (challengeRule.refill c.tcb.challenge.bucket c.core.nowNs).tokens := by
    rw [← hrefill]
    rfl
  unfold challengeAcks sendChallengeAck BucketRule.request
  simp only
  rw [htokens, ← hrefill]
  split
  · exact ⟨rfl, Nat.sub_self _⟩
  · refine ⟨rfl, ?_⟩
    rw [txTcp_core, Core.txTcp_out, List.length_append, onTcb_core, Nat.add_sub_cancel_left]
    rfl

@[simp] theorem sendChallengeAck_nowNs : c.sendChallengeAck.core.nowNs = c.core.nowNs := by
  rw [sendChallengeAck_core]

end Conn

/-- The calls of `_send_challenge_ack` that lead from one state of a connection to another: the time
of each and the number of segments it sent. -/
inductive ChallengeCalls (c₀ : Conn) : List (Int × Nat) → Conn → Prop
  | nil : ChallengeCalls c₀ [] c₀
  | between {log : List (Int × Nat)} {c c' : Conn} (h : ChallengeCalls c₀ log c)
      (hchallenge : c'.tcb.challenge = c.tcb.challenge) (hnow : c.core.nowNs ≤ c'.core.nowNs) :
      ChallengeCalls c₀ log c'
  | call {log : List (Int × Nat)} {c : Conn} (h : ChallengeCalls c₀ log c) :
      ChallengeCalls c₀ (log ++ [(c.core.nowNs, c.challengeAcks)]) c.sendChallengeAck

/-- The calls of a log are accounted for. -/
theorem ChallengeCalls.spent {c₀ c : Conn} {log : List (Int × Nat)} (h : ChallengeCalls c₀ log c)
    (hrange : challengeRule.InRange c₀.tcb.challenge.bucket)
    (hlast : c₀.tcb.challenge.lastChallengeAckTimestamp ≤ c₀.core.nowNs) :
    Spent challengeRule c₀.tcb.challenge.bucket log c.tcb.challenge.bucket c.core.nowNs := by
  induction h with
  | nil => exact .nil hrange hlast
  | between _ hchallenge hnow ih =>
    rw [hchallenge]
    exact ih.wait hnow
  | @call log c _ ih =>
    obtain ⟨hbucket, hacks⟩ := c.sendChallengeAck_request
    rw [hbucket, hacks, c.sendChallengeAck_nowNs]
    exact ih.request

/-- The limit on challenge ACKs, for a control block made at time `t₀`: what the calls of `log`
left, and what more calls may send. -/
structure ChallengeLimited (t₀ : Int) (log : List (Int × Nat)) (c : Conn) : Prop where
  inRange : 0 ≤ c.tcb.challenge.challengeAckLimit ∧ c.tcb.challenge.challengeAckLimit ≤ 100
  sent : ∀ t, t₀ ≤ t → grantedUpTo t log ≤ 100 + 5 * ((t - t₀) / 1000000000)
  /-- the next call, and all calls after it -/
  sentBetween : ∀ log' c', ChallengeCalls c.sendChallengeAck log' c' → ∀ t, c.core.nowNs ≤ t →
    c.challengeAcks + grantedUpTo t log' ≤
      100 + 5 * ((t - c.sendChallengeAck.tcb.challenge.lastChallengeAckTimestamp) / 1000000000)

/-- **The rate limit**, over all calls on a control block. -/
theorem challenge_ack_limited {c₀ c : Conn} {ref so : Nat} {id : SockId}
    {soLinger : Option (List UInt8)} {iss : Int}
    (hnew : c₀.tcb = .new ref so id soLinger iss c₀.core.nowNs) {log : List (Int × Nat)}
    (h : ChallengeCalls c₀ log c) : ChallengeLimited c₀.core.nowNs log c := by
  have hbucket : c₀.tcb.challenge.bucket = ⟨100, c₀.core.nowNs⟩ := by
    rw [hnew]
    rfl
  have hstart : challengeRule.InRange c₀.tcb.challenge.bucket := by
    rw [hbucket]
    exact ⟨by simp, le_rfl⟩
  have hlast : c₀.tcb.challenge.lastChallengeAckTimestamp = c₀.core.nowNs :=
    congrArg Bucket.last hbucket
  have hspent := h.spent hstart hlast.le
  refine ⟨hspent.inRange, fun t ht => ?_, fun log' c' h' t ht => ?_⟩
  · have hupTo := hspent.upTo t (by rw [hbucket]; exact ht)
    rw [hbucket] at hupTo
    exact hupTo
  · obtain ⟨hnext, hacks⟩ := c.sendChallengeAck_request
    obtain ⟨hrange, -, hnow, -, hcapped⟩ :=
      BucketRule.request_requested hspent.inRange hspent.le_now
    rw [← hnext] at hrange hnow hcapped
    rw [← hacks] at hcapped
    have hspent' := h'.spent hrange (by rw [c.sendChallengeAck_nowNs]; exact hnow)
    have hupTo : (grantedUpTo t log' : Int) ≤ c.sendChallengeAck.tcb.challenge.challengeAckLimit +
        5 * ((t - c.sendChallengeAck.tcb.challenge.lastChallengeAckTimestamp) / 1000000000) :=
      hspent'.upTo t (hnow.trans ht)
    have hcap :
        (c.challengeAcks : Int) + c.sendChallengeAck.tcb.challenge.challengeAckLimit ≤ 100 :=
      hcapped
    omega

/-- A control block a second and a half after six calls. -/
def Conn.sampleChallenged : Conn :=
  let c := Conn.sendChallengeAck^[6] sampleNew
  { c with core := { c.core with nowNs := 1500000000 } }

/-- The seventh call finds five tokens more. -/
theorem challenge_ack_limited_refill :
    Conn.sampleChallenged.tcb.challenge.challengeAckLimit = 94 ∧
      Conn.sampleChallenged.sendChallengeAck.tcb.challenge.challengeAckLimit = 98 ∧
      ChallengeLimited 0 (List.replicate 6 (0, 1) ++ [(1500000000, 1)])
        Conn.sampleChallenged.sendChallengeAck := by
  have hsix : ChallengeCalls Conn.sampleNew (List.replicate 6 (0, 1))
      (Conn.sendChallengeAck^[6] Conn.sampleNew) :=
        .call (.call (.call (.call (.call (.call .nil)))))
  have hlater : ChallengeCalls Conn.sampleNew (List.replicate 6 (0, 1)) Conn.sampleChallenged :=
    .between hsix rfl (by decide)
  have hacks : Conn.sampleChallenged.challengeAcks = 1 := by decide
  have hcalls := hlater.call
  rw [hacks] at hcalls
  exact ⟨by decide, by decide, challenge_ack_limited rfl hcalls⟩

end Tipy.Tcp
