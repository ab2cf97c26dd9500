import Mathlib.Data.ENat.Lattice
import SinkAudit.Classifier.Basic

/-!
# Asking again

A question is asked again only after a passing failure: one of the network, a timeout, or a status that
tells of too many requests or of a fault of the service.  How often it is asked is then decided by two
numbers, the index of the first outcome that lasts and the number of retries that are allowed, and by
nothing else.  In particular a reply ends the exchange, whether or not it can be read as a verdict: it is
read when the exchange is over.

* `IsPassing`: the outcomes after which a question is asked again.
* `firstLasting`: the index of the first outcome that is none of these, and infinite if all are.
* `sendWithRetries_of_isPassing`, `sendWithRetries_of_not_isPassing`: one send.
* `exists_sendWithRetries_eq`: the whole exchange; `remote_retries_bounded`: what the classifier makes of it.
-/

namespace SinkAudit

/-- A failure that may pass: another attempt could succeed. -/
def IsPassing (outcome : Except ClassifyError String) : Prop :=
  ∃ e, outcome = .error e ∧ e.isTransient = true

theorem isPassing_error (e : ClassifyError) : IsPassing (.error e) ↔ e.isTransient = true := by
  constructor
  · rintro ⟨f, hf, hpass⟩
    cases hf
    exact hpass
  · exact fun hpass => ⟨e, rfl, hpass⟩

theorem not_isPassing_ok (reply : String) : ¬IsPassing (.ok reply) := by
  rintro ⟨e, he, -⟩
  cases he

/-- The kinds of failures that may pass. -/
theorem ClassifyError.isTransient_iff (e : ClassifyError) :
    e.isTransient = true ↔ (∃ text, e = .network text) ∨ (∃ seconds, e = .timeout seconds) ∨
      ∃ code body, e = .status code body ∧ (code = 429 ∨ 500 ≤ code) := by
  cases e with
  | request text => simp [isTransient]
  | status code body => simp [isTransient]
  | network text => simp [isTransient]
  | timeout seconds => simp [isTransient]
  | invalidResponse text => simp [isTransient]

open Classical in
/-- The index of the first outcome that is no passing failure; infinite if there is none. -/
noncomputable def firstLasting (outcomes : Nat → Except ClassifyError String) : ℕ∞ :=
  if h : ∃ n, ¬IsPassing (outcomes n) then (Nat.find h : ℕ∞) else ⊤

section Exchanges

variable {outcomes : Nat → Except ClassifyError String}

theorem firstLasting_eq {n : Nat} (hbefore : ∀ i, i < n → IsPassing (outcomes i))
    (hlasts : ¬IsPassing (outcomes n)) : firstLasting outcomes = n := by
  classical
  have hex : ∃ n, ¬IsPassing (outcomes n) := ⟨n, hlasts⟩
  rw [firstLasting, dif_pos hex, Nat.cast_inj]
  refine (Nat.find_eq_iff hex).mpr ⟨hlasts, fun i hi hlasts' => hlasts' (hbefore i hi)⟩

theorem le_firstLasting {n : Nat} (hbefore : ∀ i, i < n → IsPassing (outcomes i)) :
    (n : ℕ∞) ≤ firstLasting outcomes := by
  classical
  rw [firstLasting]
  split
  · rename_i hex
    rw [Nat.cast_le]
    exact (Nat.le_find_iff hex n).mpr fun i hi hlasts => hlasts (hbefore i hi)
  · exact le_top

/-! ## One send -/

theorem sendWithRetries_of_isPassing {sent : Nat} (h : IsPassing (outcomes sent)) (retries : Nat) :
    sendWithRetries outcomes (retries + 1) sent = sendWithRetries outcomes retries (sent + 1) := by
  obtain ⟨e, he, hpass⟩ := h
  rw [sendWithRetries, he]
  exact if_pos hpass

/-- An outcome that lasts ends the exchange, however many retries are left. -/
theorem sendWithRetries_of_not_isPassing {sent : Nat} (h : ¬IsPassing (outcomes sent)) (retries : Nat) :
    sendWithRetries outcomes retries sent = ⟨sent + 1, outcomes sent⟩ := by
  cases retries with
  | zero => rfl
  | succ retries =>
    rw [sendWithRetries]
    cases hout : outcomes sent with
    | ok reply => rfl
    | error e =>
      rw [hout, isPassing_error] at h
      exact if_neg h

/-! ## The exchange -/

/-- An exchange goes on while failures pass, and ends with the first outcome that does not pass or
when no retry is left.  The induction is on the retries that are left. -/
theorem exists_sendWithRetries_eq (outcomes : Nat → Except ClassifyError String) :
    ∀ retries sent : Nat, ∃ n, n ≤ retries ∧
      sendWithRetries outcomes retries sent = ⟨sent + n + 1, outcomes (sent + n)⟩ ∧
      (∀ i, i < n → IsPassing (outcomes (sent + i))) ∧
      (n < retries → ¬IsPassing (outcomes (sent + n)))
  | 0, sent => ⟨0, Nat.le_refl 0, rfl, fun i hi => absurd hi (Nat.not_lt_zero i),
      fun h => absurd h (Nat.lt_irrefl 0)⟩
  | retries + 1, sent => by
    by_cases hpass : IsPassing (outcomes sent)
    · obtain ⟨n, hn, hrun, hbefore, hlast⟩ :=
        exists_sendWithRetries_eq outcomes retries (sent + 1)
      have hshift : ∀ i, sent + 1 + i = sent + (i + 1) := fun i => by omega
      rw [hshift] at hrun hlast
      refine ⟨n + 1, Nat.succ_le_succ hn, ?_, fun i hi => ?_, fun h => hlast (Nat.lt_of_succ_lt_succ h)⟩
      · rw [sendWithRetries_of_isPassing hpass, hrun]
      · cases i with
        | zero => exact hpass
        | succ i =>
          rw [← hshift]
          exact hbefore i (Nat.lt_of_succ_lt_succ hi)
    · exact ⟨0, Nat.zero_le _, sendWithRetries_of_not_isPassing hpass _,
        fun i hi => absurd hi (Nat.not_lt_zero i), fun _ => hpass⟩

/-- The number of retries is the smaller of the two numbers. -/
theorem eq_min_firstLasting {n r : Nat} (hn : n ≤ r) (hbefore : ∀ i, i < n → IsPassing (outcomes i))
    (hlast : n < r → ¬IsPassing (outcomes n)) : (n : ℕ∞) = min (firstLasting outcomes) r := by
  rcases Nat.lt_or_eq_of_le hn with hlt | rfl
  · rw [firstLasting_eq hbefore (hlast hlt), min_eq_left (Nat.cast_le.mpr hn)]
  · rw [min_eq_right (le_firstLasting hbefore)]

end Exchanges

/-- **Bounded retries.**  Whatever the sends bring, a question is sent once and then again for each
passing failure, but not more often than retries are allowed.  The answer is the reply of the last send,
read as a verdict, or its failure as it is.  A send is followed by another only if it fails by the
network, by a timeout, or with the status 429 or one from 500 on; and the last one fails so only if no
retry is left. -/
theorem remote_retries_bounded (send : String → Nat → Except ClassifyError String) (r : Nat)
    (request : Request) :
    ∃ n, (sendWithRetries (send request.prompt) r 0).sends = n + 1 ∧
      (n : ℕ∞) = min (firstLasting (send request.prompt)) r ∧
      Classifier.remote send r request =
        (match send request.prompt n with
          | .ok reply => (Verdict.ofReply reply).mapError .ofReplyFault
          | .error e => .error e) ∧
      (∀ i, i < n → ∃ e, send request.prompt i = .error e ∧
        ((∃ text, e = .network text) ∨ (∃ seconds, e = .timeout seconds) ∨
          ∃ code body, e = .status code body ∧ (code = 429 ∨ 500 ≤ code))) ∧
      (IsPassing (send request.prompt n) → n = r) := by
  obtain ⟨n, hn, hrun, hbefore, hlast⟩ := exists_sendWithRetries_eq (send request.prompt) r 0
  simp only [Nat.zero_add] at hrun hbefore hlast
  refine ⟨n, by rw [hrun], eq_min_firstLasting hn hbefore hlast, ?_, fun i hi => ?_, fun hpass => ?_⟩
  · rw [Classifier.remote, hrun, Exchange.verdict]
    cases send request.prompt n with
    | error e => rfl
    | ok reply =>
      dsimp only
      cases Verdict.ofReply reply with
      | ok v => rfl
      | error f => rfl
  · obtain ⟨e, he, hpass⟩ := hbefore i hi
    exact ⟨e, he, e.isTransient_iff.mp hpass⟩
  · exact Nat.le_antisymm hn (Nat.le_of_not_lt fun hlt => hlast hlt hpass)

/-- Sends that meet a busy service twice, and then a reply without a verdict. -/
def busyTwice (_ : String) (earlier : Nat) : Except ClassifyError String :=
  if earlier < 2 then .error (.status 503 "busy") else .ok "no verdict"

theorem firstLasting_busyTwice (prompt : String) : firstLasting (busyTwice prompt) = (2 : Nat) := by
  refine firstLasting_eq (fun i hi => ?_) (not_isPassing_ok "no verdict")
  exact ⟨.status 503 "busy", if_pos hi, rfl⟩

/-- A reply that cannot be read ends the exchange, though retries are left. -/
theorem remote_retries_bounded_unread :
    (sendWithRetries (busyTwice (default : Request).prompt) 5 0).sends = 3 ∧
      Classifier.remote busyTwice 5 default = .error (.invalidResponse "no JSON object in reply") := by
  obtain ⟨n, hsends, hn, hanswer, -⟩ := remote_retries_bounded busyTwice 5 default
  rw [firstLasting_busyTwice, min_eq_left (Nat.cast_le.mpr (by decide)), Nat.cast_inj] at hn
  subst hn
  have hreply : Verdict.ofReply "no verdict" = .error .noObject := by decide +kernel
  have hlast : ∀ prompt, busyTwice prompt 2 = .ok "no verdict" := fun _ => rfl
  rw [hlast] at hanswer
  dsimp only at hanswer
  rw [hreply] at hanswer
  exact ⟨hsends, hanswer⟩

end SinkAudit
