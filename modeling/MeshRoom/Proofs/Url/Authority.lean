import MeshRoom.Proofs.Url.Reading

/-!
# Parts of authorities

Who logs in is what stands before the last at-sign of an authority. The rest names the host and the
port, which do not depend on it; and neither the host nor who logs in matters for what follows.
-/

namespace MeshRoom.Url

variable {cs name user host : List Char}

/-- What a text is cut at is not in front of it. -/
lemma cutAt_append_of_forall {p : Char → Bool} (h : ∀ c ∈ name, p c = false) (cs : List Char) :
    cutAt p (name ++ cs) = (name ++ (cutAt p cs).1, (cutAt p cs).2) := by
  have hgo : ∀ c ∈ name, (!p c) = true := fun c hc => by rw [h c hc]; rfl
  exact Prod.ext (List.takeWhile_append_of_pos hgo) (List.dropWhile_append_of_pos hgo)

/-! ### Users -/

lemma ne_at_of_notMem (h : '@' ∉ cs) : ∀ c ∈ cs.reverse, decide (c ≠ '@') = true := by
  intro c hc
  rw [decide_eq_true_eq]
  rintro rfl
  exact h (List.mem_reverse.1 hc)

lemma splitUser_of_notMem (h : '@' ∉ cs) : splitUser cs = (none, cs) := by
  have hgo := ne_at_of_notMem h
  simp only [splitUser, List.dropWhile_eq_nil_iff.2 hgo, List.takeWhile_eq_self_iff.2 hgo,
    List.reverse_reverse]

/-- The last at-sign ends who logs in. -/
lemma splitUser_append (h : '@' ∉ host) (user : List Char) :
    splitUser (user ++ '@' :: host) = (some user, host) := by
  have hgo := ne_at_of_notMem h
  have hrev : (user ++ '@' :: host).reverse = host.reverse ++ '@' :: user.reverse := by simp
  have hat : decide ('@' ≠ '@') = false := rfl
  simp only [splitUser, hrev, takeWhile_append_of_stop (p := fun c => decide (c ≠ '@')) hat,
    dropWhile_append_of_stop (p := fun c => decide (c ≠ '@')) hat,
    List.dropWhile_eq_nil_iff.2 hgo, List.takeWhile_eq_self_iff.2 hgo, List.nil_append,
    List.reverse_reverse]

/-- An authority has an at-sign with no other behind it, or none. -/
lemma exists_splitUser (cs : List Char) :
    (∃ user host, cs = user ++ '@' :: host ∧ '@' ∉ host) ∨ '@' ∉ cs := by
  by_cases h : '@' ∈ cs
  · obtain ⟨host, user, hrev, hhost⟩ := List.eq_append_cons_of_mem (List.mem_reverse.2 h)
    refine .inl ⟨user.reverse, host.reverse, ?_, by simpa using hhost⟩
    rw [← List.reverse_reverse cs, hrev]
    simp
  · exact .inr h

/-- The password stands behind a colon. -/
lemma password_append (h : ':' ∉ name) (user : List Char) :
    (credentials (name ++ user)).2 = (credentials user).2 := by
  have hcolon : ∀ c ∈ name, decide (c = ':') = false := by
    intro c hc
    rw [decide_eq_false_iff_not]
    rintro rfl
    exact h hc
  rw [credentials, cutAt_append_of_forall hcolon]
  rfl

/-- An address with who logs in. -/
def loggedIn (user : Option (List Char)) (u : Url) : Url :=
  { u with
    username := (credentials (user.getD [])).1
    password := (credentials (user.getD [])).2 }

/-- The host and the port do not depend on who logs in. -/
lemma place?_append (scheme : String) (hhost : '@' ∉ host) (user : List Char) :
    place? scheme (user ++ '@' :: host) = (place? scheme host).map (loggedIn (some user)) := by
  simp only [place?, splitUser_append hhost, splitUser_of_notMem hhost]
  split
  · rfl
  · cases host? scheme false _ with
    | none => rfl
    | some host => cases port? scheme _ <;> rfl

/-! ### Ports -/

/-- A name without colons and brackets stands before the port. -/
lemma splitPort_append (h : ∀ c ∈ name, c ∉ [':', '[', ']']) (cs : List Char) :
    splitPort false (name ++ cs) = (name ++ (splitPort false cs).1, (splitPort false cs).2) := by
  induction name with
  | nil => rfl
  | cons c name ih =>
    have hc := h c List.mem_cons_self
    simp only [List.mem_cons, List.not_mem_nil, or_false, not_or] at hc
    rw [List.cons_append, splitPort, if_neg (by simp [hc.1]), if_neg hc.2.1, if_neg hc.2.2,
      ih fun c hc => h c (List.mem_cons_of_mem _ hc)]
    rfl

/-- The port that a text behind a colon names, nothing if it names none. -/
def readPort? (scheme : String) (text : Option (List Char)) : Option (Option Nat) :=
  let (digits, spill) := cutAt (!Char.isDigit ·) (text.getD [])
  if spill ≠ [] then none else port? scheme digits

/-- Without an at-sign there is a host and a port. -/
lemma place?_of_notMem (scheme : String) (h : '@' ∉ cs) :
    place? scheme cs = (host? scheme false (splitPort false cs).1).bind fun host =>
      (readPort? scheme (splitPort false cs).2).map fun port =>
        { scheme, host := some host, port } := by
  simp only [place?, readPort?, splitUser_of_notMem h]
  split
  · cases host? scheme false _ <;> rfl
  · cases host? scheme false _ with
    | none => rfl
    | some host => cases port? scheme _ <;> rfl

/-! ### What follows -/

/-- What follows an authority does not depend on the host nor on who logs in. -/
lemma afterAuthority_with (u : Url) (host : Option Host) (username : String) (cs : List Char) :
    afterAuthority { u with host, username } cs
      = { afterAuthority u cs with host, username } := by
  cases cs with
  | nil =>
    simp only [afterAuthority]
    split <;> rfl
  | cons c cs =>
    simp only [afterAuthority]
    split
    · rfl
    · split <;> rfl

lemma host_afterAuthority (u : Url) (cs : List Char) : (afterAuthority u cs).host = u.host := by
  have hwith := congrArg Url.host (afterAuthority_with u u.host u.username cs)
  exact hwith

end MeshRoom.Url
