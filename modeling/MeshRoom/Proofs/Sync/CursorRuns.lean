import MeshRoom.Proofs.Sync.OwnCursor

/-!
# Runs of cursor notices

Whatever notices come in, and however those of different sessions are mixed, the cursor of a session
is what the last notice of that session said which said anything: gone or where it is. What becomes
of a cursor with one notice tells how the table has changed.
-/

namespace MeshRoom

open Wire

namespace CursorTable

variable {own : Session} {n : CursorNotice} {t : CursorTable} {id : String}

/-! ### What notices say -/

/-- Whether a notice is followed at all: nobody and the own session are not. -/
def Heeded (own : Session) (n : CursorNotice) : Prop :=
  n.session ≠ "" ∧ own.owns n.session = false

/-- The last that notices say of the cursor of a session: that it is gone, or where it is. -/
def lastSaid? (id : String) (ns : List CursorNotice) : Option (Option Cursor) :=
  (ns.filter fun n => n.session = id).reverse.findSome? CursorNotice.says?

/-- A notice takes the cursor of its session away, by its own flag or by that of the mark that it
carries. -/
def Removes (n : CursorNotice) : Prop :=
  n.removed = true ∨ ∃ m, n.cursor = some m ∧ m.removed = true

lemma isRemoval_iff : n.isRemoval = true ↔ Removes n := by
  rw [CursorNotice.isRemoval, Bool.or_eq_true, Removes]
  cases n.cursor <;> simp

lemma says?_eq_some_none_iff : n.says? = some none ↔ Removes n := by
  rw [CursorNotice.says?]
  split
  case isTrue hremoval => exact iff_of_true rfl (isRemoval_iff.1 hremoval)
  case isFalse hremoval =>
    exact iff_of_false (by cases n.cursor <;> simp) (mt isRemoval_iff.2 hremoval)

/-- Removal wins over the mark that is carried. -/
lemma says?_eq_some_some_iff {c : Cursor} :
    n.says? = some (some c) ↔ ¬ Removes n ∧ ∃ m, n.cursor = some m ∧ Cursor.ofMark m = c := by
  rw [CursorNotice.says?]
  split
  case isTrue hremoval => exact iff_of_false (by simp) fun h => h.1 (isRemoval_iff.1 hremoval)
  case isFalse hremoval => simp [mt isRemoval_iff.2 hremoval]

lemma lastSaid?_cons (id : String) (n : CursorNotice) (ns : List CursorNotice) :
    lastSaid? id (n :: ns) = (lastSaid? id ns).or (if n.session = id then n.says? else none) := by
  rw [lastSaid?, lastSaid?, List.filter_cons]
  by_cases hid : n.session = id
  · rw [if_pos (by simpa using hid), List.reverse_cons, List.findSome?_append, if_pos hid]
    simp
  · rw [if_neg (by simpa using hid), if_neg hid, Option.or_none]

/-! ### One notice -/

/-- What following a notice does to the table. -/
inductive FollowRule (own : Session) (n : CursorNotice) (t : CursorTable) :
    CursorFate → CursorTable → Prop where
  | unheeded (h : ¬ Heeded own n) : FollowRule own n t .ignored t
  | silent (h : Heeded own n) (hsaid : n.says? = none) : FollowRule own n t .ignored t
  | gone (h : Heeded own n) (hsaid : n.says? = some none) (hmem : n.session ∉ t) :
      FollowRule own n t .ignored t
  | removed (h : Heeded own n) (hsaid : n.says? = some none) (hmem : n.session ∈ t) :
      FollowRule own n t .removed (t.erase n.session)
  | added {c : Cursor} (h : Heeded own n) (hsaid : n.says? = some (some c))
      (hmem : n.session ∉ t) : FollowRule own n t .added (t.insert n.session c)
  | moved {c : Cursor} (h : Heeded own n) (hsaid : n.says? = some (some c))
      (hmem : n.session ∈ t) : FollowRule own n t .moved (t.insert n.session c)

lemma FollowRule.of_follow (own : Session) (n : CursorNotice) (t : CursorTable) :
    FollowRule own n t (t.follow own n).1 (t.follow own n).2 := by
  unfold follow
  split
  case isTrue hignored =>
    refine .unheeded ?_
    rintro ⟨hne, hother⟩
    simp [hne, hother] at hignored
  case isFalse hheeded =>
    have h : Heeded own n := by simpa [Heeded] using hheeded
    split
    case isTrue hremoval =>
      have hsaid : n.says? = some none := by rw [CursorNotice.says?, if_pos hremoval]
      unfold drop
      split
      case isTrue hmem => exact .removed h hsaid hmem
      case isFalse hmem => exact .gone h hsaid hmem
    case isFalse hremoval =>
      have hsaid : n.says? = n.cursor.map fun m => some (.ofMark m) := by
        rw [CursorNotice.says?, if_neg hremoval]
      cases hm : n.cursor with
      | none => exact .silent h (by rw [hsaid, hm]; rfl)
      | some m =>
        have hsaid : n.says? = some (some (.ofMark m)) := by rw [hsaid, hm]; rfl
        dsimp only [place]
        split
        case isTrue hmem => exact .moved h hsaid hmem
        case isFalse hmem => exact .added h hsaid hmem

/-- What becomes of a cursor tells how the table has changed. -/
structure Tells (own : Session) (n : CursorNotice) (t : CursorTable) (fate : CursorFate)
    (after : CursorTable) : Prop where
  added : fate = .added ↔ n.session ∉ t ∧ n.session ∈ after
  removed : fate = .removed ↔ n.session ∈ t ∧ n.session ∉ after
  moved : fate = .moved ↔ n.session ∈ t ∧ Heeded own n ∧
    ∃ c, n.says? = some (some c) ∧ after[n.session]? = some c
  ignored : fate = .ignored → after = t
  size : (after.size : Int) = t.size + match fate with
    | .added => 1
    | .removed => -1
    | .moved | .ignored => 0

lemma FollowRule.tells {fate : CursorFate} {after : CursorTable}
    (h : FollowRule own n t fate after) : Tells own n t fate after := by
  cases h with
  | unheeded h =>
    exact ⟨by simp, by simp, by simp [h], fun _ => rfl, (Int.add_zero _).symm⟩
  | silent h hsaid =>
    exact ⟨by simp, by simp, by simp [hsaid], fun _ => rfl, (Int.add_zero _).symm⟩
  | gone h hsaid hmem =>
    exact ⟨by simp, by simp, by simp [hmem], fun _ => rfl, (Int.add_zero _).symm⟩
  | removed h hsaid hmem =>
    refine ⟨by simp, by simp [hmem], by simp [hsaid], by simp, ?_⟩
    have hsize : (t.erase n.session).size + 1 = t.size := size_erase_add_one hmem
    dsimp only
    omega
  | added h hsaid hmem =>
    refine ⟨by simp [hmem], by simp, by simp [hmem], by simp, ?_⟩
    rw [Std.ExtTreeMap.size_insert, if_neg (by simpa using hmem)]
    rfl
  | @moved c h hsaid hmem =>
    refine ⟨by simp [hmem], by simp, by simp [hmem, h, hsaid], by simp, ?_⟩
    rw [Std.ExtTreeMap.size_insert, if_pos (by simpa using hmem)]
    exact (Int.add_zero _).symm

/-! ### Runs -/

/-- Follow notices one after the other. -/
def followAll (own : Session) (ns : List CursorNotice) (t : CursorTable) : CursorTable :=
  ns.foldl (fun t n => (t.follow own n).2) t

/-- The cursor of another session is what was last said of it, if anything was. -/
lemma getElem?_followAll (own : Session) (ns : List CursorNotice) (t : CursorTable) (id : String) :
    (t.followAll own ns)[id]?
      = if id ≠ "" ∧ own.owns id = false then (lastSaid? id ns).getD t[id]? else t[id]? := by
  induction ns generalizing t with
  | nil => exact (ite_self _).symm
  | cons n ns ih =>
    rw [followAll, List.foldl_cons, ← followAll, ih, getElem?_follow, lastSaid?_cons]
    by_cases hother : id ≠ "" ∧ own.owns id = false
    · rw [if_pos hother, if_pos hother]
      by_cases hid : id = n.session
      · rw [if_pos ⟨hid, hother⟩, if_pos hid.symm]
        cases lastSaid? id ns <;> rfl
      · rw [if_neg fun h => hid h.1, if_neg (Ne.symm hid), Option.or_none]
    · rw [if_neg hother, if_neg hother, if_neg fun h => hother h.2]

lemma follow_of_not_heeded (h : n.session = "" ∨ own.owns n.session = true) (t : CursorTable) :
    t.follow own n = (.ignored, t) := by
  rw [follow, if_pos (by simpa using h)]

/-- How the notices of different sessions are mixed does not matter. -/
lemma followAll_congr {ns ns' : List CursorNotice} (own : Session) (t : CursorTable)
    (h : ∀ id, ns.filter (fun n => n.session = id) = ns'.filter fun n => n.session = id) :
    t.followAll own ns = t.followAll own ns' := by
  refine Std.ExtTreeMap.ext_getElem? fun id => ?_
  rw [getElem?_followAll, getElem?_followAll, lastSaid?, lastSaid?, h id]

/-- After any notices the table has of each other session what the last notice said that said
anything of it, and of nobody and of the own session what it had before; so the order counts only
among the notices of one session. And what becomes of a cursor with a notice tells how the table has
changed. -/
theorem cursors_after_notices (own : Session) (t : CursorTable) :
    (∀ ns id, id ≠ "" → own.owns id = false →
      (t.followAll own ns)[id]? = (lastSaid? id ns).getD t[id]?) ∧
    (∀ n : CursorNotice, (n.says? = some none ↔ Removes n) ∧ ∀ c, n.says? = some (some c) ↔
      ¬ Removes n ∧ ∃ m, n.cursor = some m ∧ Cursor.ofMark m = c) ∧
    (∀ n : CursorNotice, n.session = "" ∨ own.owns n.session = true →
      t.follow own n = (.ignored, t)) ∧
    (∀ ns id, id = "" ∨ own.owns id = true → (t.followAll own ns)[id]? = t[id]?) ∧
    (∀ ns ns' : List CursorNotice,
      (∀ id, ns.filter (fun n => n.session = id) = ns'.filter fun n => n.session = id) →
        t.followAll own ns = t.followAll own ns') ∧
    ∀ n, Tells own n t (t.follow own n).1 (t.follow own n).2 := by
  refine ⟨fun ns id hid hother => ?_, fun n => ⟨says?_eq_some_none_iff, fun c =>
    says?_eq_some_some_iff⟩, fun n h => follow_of_not_heeded h t, fun ns id h => ?_,
    fun ns ns' h => followAll_congr own t h, fun n => (FollowRule.of_follow own n t).tells⟩
  · rw [getElem?_followAll, if_pos ⟨hid, hother⟩]
  · rw [getElem?_followAll, if_neg]
    rintro ⟨hne, hother⟩
    obtain rfl | hown := h
    · exact hne rfl
    · rw [hother] at hown
      cases hown

/-- A cursor that is shown at first is gone after a notice that says so of the mark it carries, in
whichever place between those of others it comes; the own cursor stays as it is. -/
theorem cursors_after_notices_mixed :
    let own : Session := { id := some "me" }
    let t : CursorTable := Std.ExtTreeMap.insert ∅ "a" (.ofMark { icon := 1 })
    let gone : CursorNotice := { session := "a", cursor := some { icon := 2, removed := true } }
    let silent : CursorNotice := { session := "a" }
    let other : CursorNotice := { session := "b", cursor := some { icon := 3 } }
    let mine : CursorNotice := { session := "me", cursor := some { icon := 4 } }
    let ns := [other, gone, mine, silent]
    let ns' := [gone, silent, mine, other]
    (∀ id, ns.filter (fun n => n.session = id) = ns'.filter fun n => n.session = id) ∧
      t.followAll own ns = t.followAll own ns' ∧
      own.owns "a" = false ∧ (t.followAll own ns)["a"]? = none ∧
      own.owns "me" = true ∧ (t.followAll own ns)["me"]? = none := by
  intro own t gone silent other mine ns ns'
  have hmixed (id : String) :
      ns.filter (fun n => n.session = id) = ns'.filter fun n => n.session = id := by
    by_cases ha : id = "a"
    · subst ha
      decide +kernel
    · by_cases hb : id = "b"
      · subst hb
        decide +kernel
      · simp [ns, ns', gone, silent, other, mine, List.filter_cons, Ne.symm ha, Ne.symm hb]
  obtain ⟨hsaid, -, -, hsame, hcongr, -⟩ := cursors_after_notices own t
  have hgone : (t.followAll own ns)["a"]? = none :=
    (hsaid ns "a" (by decide) (by decide)).trans (by decide +kernel)
  have hmine : (t.followAll own ns)["me"]? = none :=
    (hsame ns "me" (.inr (by decide))).trans (by decide +kernel)
  exact ⟨hmixed, hcongr ns ns' hmixed, by decide, hgone, by decide, hmine⟩

end CursorTable

end MeshRoom
