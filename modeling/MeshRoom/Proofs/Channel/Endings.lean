import MeshRoom.Channel.Socket
import Mathlib.Algebra.GroupWithZero.Nat
import Mathlib.Algebra.Order.BigOperators.Group.List
import Mathlib.Algebra.Order.Group.Nat
import Mathlib.Tactic.ByContra
import Mathlib.Tactic.Lemma

/-!
# What ends a stream

Some of what a reader finds ends the stream: the other side closes it, or it breaks or is over. So
does what is longer than it may be, a frame, a message of several frames, or a control frame, since
the reader fails to read it. Anything else carries a text or is passed over.
-/

namespace MeshRoom.Incoming

/-! ### Limits -/

/-- Portions of a message that are within the limits, each and together. -/
def Fits (sizes : List Nat) : Prop := (∀ n ∈ sizes, n ≤ frameLimit) ∧ sizes.sum ≤ messageLimit

instance (sizes : List Nat) : Decidable (Fits sizes) :=
  inferInstanceAs (Decidable ((∀ n ∈ sizes, n ≤ frameLimit) ∧ sizes.sum ≤ messageLimit))

/-- Portions of a message are not within the limits, and what is told of the first that is not. -/
inductive Exceeds : List Nat → String → Prop where
  | frame {front back : List Nat} {n : Nat} (hfront : Fits front) (hn : frameLimit < n) :
      Exceeds (front ++ n :: back) (tooLong n frameLimit)
  | message {front back : List Nat} {n : Nat} (hfront : Fits front) (hn : n ≤ frameLimit)
      (hsum : messageLimit < front.sum + n) :
      Exceeds (front ++ n :: back) (tooLong (front.sum + n) messageLimit)

variable {sizes : List Nat} {reason : String}

/-- So many bytes are as many in portions. -/
lemma sum_cutInto (size : Nat) (cuts : List Nat) : (cutInto size cuts).sum = size := by
  induction cuts generalizing size with
  | nil => exact Nat.add_zero size
  | cons cut cuts ih =>
    rw [cutInto, List.sum_cons, ih]
    omega

lemma fits_singleton {n : Nat} : Fits [n] ↔ n ≤ frameLimit := by
  simp only [Fits, List.forall_mem_singleton, List.sum_singleton, frameLimit, messageLimit]
  omega

/-- What one frame could carry is within the limits however it is cut. -/
lemma fits_cutInto {size : Nat} (h : size ≤ frameLimit) (cuts : List Nat) :
    Fits (cutInto size cuts) := by
  constructor
  · intro n hn
    have hle := List.le_sum_of_mem hn
    rw [sum_cutInto] at hle
    exact Nat.le_trans hle h
  · rw [sum_cutInto]
    exact Nat.le_trans h (by decide)

/-- What is within the limits is passed over. -/
lemma excess?_append {front : List Nat} {before : Nat} (hframes : ∀ n ∈ front, n ≤ frameLimit)
    (hmessage : before + front.sum ≤ messageLimit) (back : List Nat) :
    excess? before (front ++ back) = excess? (before + front.sum) back := by
  induction front generalizing before with
  | nil => rfl
  | cons n front ih =>
    rw [List.forall_mem_cons] at hframes
    rw [List.sum_cons, ← Nat.add_assoc] at hmessage ⊢
    rw [List.cons_append, excess?, if_neg (Nat.not_lt.2 hframes.1), if_neg (by omega)]
    exact ih hframes.2 hmessage

lemma Fits.excess?_append {front : List Nat} (h : Fits front) (back : List Nat) :
    excess? 0 (front ++ back) = excess? front.sum back := by
  have hmessage : 0 + front.sum ≤ messageLimit := (Nat.zero_add _).symm ▸ h.2
  rw [Incoming.excess?_append h.1 hmessage, Nat.zero_add]

lemma Fits.excess?_eq_none (h : Fits sizes) : excess? 0 sizes = none := by
  rw [← List.append_nil sizes, h.excess?_append]
  rfl

lemma Exceeds.excess?_eq (h : Exceeds sizes reason) : excess? 0 sizes = some reason := by
  cases h with
  | frame hfront hn => rw [hfront.excess?_append, excess?, if_pos hn]
  | message hfront hn hsum =>
    rw [hfront.excess?_append, excess?, if_neg (Nat.not_lt.2 hn), if_pos hsum]

/-- What is not within the limits exceeds them at some portion. -/
lemma exists_exceeds (h : ¬Fits sizes) : ∃ reason, Exceeds sizes reason := by
  -- the portions are gone through, those before being within the limits
  suffices hrest : ∀ front, Fits front → ¬Fits (front ++ sizes) →
      ∃ reason, Exceeds (front ++ sizes) reason from
    hrest [] ⟨List.forall_mem_nil _, Nat.zero_le _⟩ h
  clear h
  induction sizes with
  | nil =>
    intro front hfront hnot
    rw [List.append_nil] at hnot
    exact absurd hfront hnot
  | cons n sizes ih =>
    intro front hfront hnot
    by_cases hn : frameLimit < n
    · exact ⟨_, .frame hfront hn⟩
    by_cases hsum : messageLimit < front.sum + n
    · exact ⟨_, .message hfront (Nat.not_lt.1 hn) hsum⟩
    have hmore : Fits (front ++ [n]) := by
      refine ⟨List.forall_mem_append.2 ⟨hfront.1, ?_⟩, ?_⟩
      · rw [List.forall_mem_singleton]
        exact Nat.not_lt.1 hn
      · rw [List.sum_append_nat, List.sum_singleton]
        exact Nat.not_lt.1 hsum
    rw [List.append_cons] at hnot ⊢
    exact ih _ hmore hnot

/-! ### Endings -/

variable {f : Incoming}

/-- The text that a frame carries, if it carries one. -/
def text? : Incoming → Option String
  | .text t _ => some t
  | .binary bytes _ => spelled? bytes
  | _ => none

/-- Whether a frame that is within the limits of all frames ends the stream. A control frame that is
too long breaks the protocol, and so ends it as a failure does. -/
def endsWithin : Incoming → Bool
  | .text _ _ | .binary _ _ => false
  | .ping bytes | .pong bytes => controlLimit < bytes.length
  | .close _ | .failure _ | .finished => true

/-- Whether what is found ends the stream. What is not within the limits cannot be read. -/
def isEnding (f : Incoming) : Bool := !decide (Fits f.portions) || f.endsWithin

/-- What is found ends the stream, with a reason. A close frame gives its own, unless it has none or
a code that no close frame may carry; what is too long is a failure. -/
inductive Ends : Incoming → String → Prop where
  | unexplained : Ends (.close none) "closed by server"
  | wordless {code : Nat} (hcode : isCloseCode code = true) :
      Ends (.close (some (code, ""))) "closed by server"
  | explained {code : Nat} {reason : String} (hcode : isCloseCode code = true)
      (hreason : reason ≠ "") (hsize : reason.utf8ByteSize + 2 ≤ controlLimit) :
      Ends (.close (some (code, reason))) reason
  | forbidden {code : Nat} {reason : String} (hcode : isCloseCode code = false)
      (hsize : reason.utf8ByteSize + 2 ≤ controlLimit) :
      Ends (.close (some (code, reason))) "Protocol violation"
  | oversizedClose {code : Nat} {reason : String} (hfits : reason.utf8ByteSize + 2 ≤ frameLimit)
      (hsize : controlLimit < reason.utf8ByteSize + 2) :
      Ends (.close (some (code, reason))) oversized
  | oversizedPing {bytes : List UInt8} (hfits : bytes.length ≤ frameLimit)
      (hsize : controlLimit < bytes.length) : Ends (.ping bytes) oversized
  | oversizedPong {bytes : List UInt8} (hfits : bytes.length ≤ frameLimit)
      (hsize : controlLimit < bytes.length) : Ends (.pong bytes) oversized
  | exceeding {f : Incoming} {reason : String} (h : Exceeds f.portions reason) : Ends f reason
  | failed (message : String) : Ends (.failure message) message
  | finished : Ends .finished "stream ended"

/-- A frame within the limits of control frames is within those of all frames. -/
lemma fits_of_le_controlLimit {n : Nat} (h : n ≤ controlLimit) : Fits [n] :=
  fits_singleton.2 (Nat.le_trans h (by decide))

lemma effect_of_fits (h : Fits f.portions) : f.effect = f.effectWithin := by
  rw [effect, h.excess?_eq_none]

/-- A text that one frame could carry is received however it is cut. -/
theorem effect_text_of_le_frameLimit {t : String} (h : t.utf8ByteSize ≤ frameLimit)
    (cuts : List Nat) : (text t cuts).effect = .receive t :=
  effect_of_fits (f := .text t cuts) (fits_cutInto h cuts)

lemma effect_of_not_isEnding (h : f.isEnding = false) :
    f.effect = match f.text? with
      | some t => .receive t
      | none => .skip := by
  rw [isEnding, Bool.or_eq_false_iff, Bool.not_eq_false', decide_eq_true_iff] at h
  obtain ⟨hfits, hkind⟩ := h
  rw [effect_of_fits hfits]
  cases f with
  | text => rfl
  | binary bytes => cases hspelled : spelled? bytes <;> simp [effectWithin, text?, hspelled]
  | ping | pong =>
    have hsize := of_decide_eq_false hkind
    simp [effectWithin, text?, hsize]
  | close | failure | finished => cases hkind

lemma Ends.effect (h : f.Ends reason) : f.effect = .stop reason := by
  cases h with
  | unexplained | failed | finished => rfl
  | wordless hcode =>
    rw [effect_of_fits]
    · simp [effectWithin, closeReason, hcode, controlLimit]
    · exact fits_of_le_controlLimit (by decide)
  | explained hcode hreason hsize =>
    rw [effect_of_fits]
    · simp [effectWithin, closeReason, hcode, hreason, Nat.not_lt.2 hsize]
    · exact fits_of_le_controlLimit hsize
  | forbidden hcode hsize =>
    rw [effect_of_fits]
    · simp [effectWithin, closeReason, hcode, Nat.not_lt.2 hsize]
    · exact fits_of_le_controlLimit hsize
  | oversizedClose hfits hsize | oversizedPing hfits hsize | oversizedPong hfits hsize =>
    rw [effect_of_fits]
    · simp [effectWithin, hsize]
    · exact fits_singleton.2 hfits
  | exceeding h => rw [Incoming.effect, h.excess?_eq]

lemma Ends.isEnding (h : f.Ends reason) : f.isEnding = true := by
  -- what does not end the stream does not have the reader stop
  by_contra hnot
  have hgo := effect_of_not_isEnding (Bool.eq_false_iff.2 hnot)
  rw [h.effect] at hgo
  split at hgo
  · cases hgo
  · cases hgo

/-- Every ending gives a reason. -/
lemma exists_ends_of_isEnding (h : f.isEnding = true) : ∃ reason, f.Ends reason := by
  by_cases hfits : Fits f.portions
  case neg =>
    obtain ⟨reason, hexceeds⟩ := exists_exceeds hfits
    exact ⟨reason, .exceeding hexceeds⟩
  rw [Incoming.isEnding, decide_eq_true hfits, Bool.not_true, Bool.false_or] at h
  cases f with
  | text | binary => cases h
  | ping => exact ⟨_, .oversizedPing (fits_singleton.1 hfits) (of_decide_eq_true h)⟩
  | pong => exact ⟨_, .oversizedPong (fits_singleton.1 hfits) (of_decide_eq_true h)⟩
  | failure message => exact ⟨_, .failed message⟩
  | finished => exact ⟨_, .finished⟩
  | close cause =>
    rcases cause with _ | ⟨code, reason⟩
    · exact ⟨_, .unexplained⟩
    by_cases hsize : controlLimit < reason.utf8ByteSize + 2
    · exact ⟨_, .oversizedClose (fits_singleton.1 hfits) hsize⟩
    cases hcode : isCloseCode code with
    | false => exact ⟨_, .forbidden hcode (Nat.not_lt.1 hsize)⟩
    | true =>
      by_cases hreason : reason = ""
      · subst hreason
        exact ⟨_, .wordless hcode⟩
      · exact ⟨_, .explained hcode hreason (Nat.not_lt.1 hsize)⟩

end MeshRoom.Incoming
