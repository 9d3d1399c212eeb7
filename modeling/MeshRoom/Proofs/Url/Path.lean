import MeshRoom.Url.Path
import Mathlib.Data.List.Basic
import Mathlib.Tactic.Lemma

/-!
# Following a path in two steps

A text can be cut at its slashes one part after the other, and a path followed one part after the
other. After a slash the open segment of a path is fresh: nothing has been added to it, and to empty
it again changes nothing. So a path that was followed up to a slash is where a reference goes on.
-/

namespace MeshRoom.Url

/-! ### Cutting -/

variable {special : Bool}

lemma segmentsOf_ne_nil (cs : List Char) : segmentsOf special cs ≠ [] := by
  cases cs with
  | nil => exact List.cons_ne_nil _ _
  | cons c cs =>
    rw [segmentsOf]
    split
    · exact List.cons_ne_nil _ _
    · split <;> exact List.cons_ne_nil _ _

lemma isSlash_slash : isSlash special '/' = true := rfl

/-- A slash cuts a text, whatever stands on its sides. -/
lemma segmentsOf_append (xs ys : List Char) :
    segmentsOf special (xs ++ '/' :: ys) = segmentsOf special xs ++ segmentsOf special ys := by
  induction xs with
  | nil =>
    obtain ⟨part, parts, hys⟩ := List.exists_cons_of_ne_nil (@segmentsOf_ne_nil special ys)
    simp [segmentsOf, hys, isSlash_slash]
  | cons c xs ih =>
    rw [List.cons_append, segmentsOf, segmentsOf, ih]
    cases hxs : segmentsOf special xs with
    | nil => exact absurd hxs (segmentsOf_ne_nil xs)
    | cons part parts =>
      dsimp only [List.cons_append]
      split <;> rfl

lemma segmentsOf_of_isSlash_eq_false {cs : List Char} (h : ∀ c ∈ cs, isSlash special c = false) :
    segmentsOf special cs = [cs] := by
  induction cs with
  | nil => rfl
  | cons c cs ih =>
    rw [List.forall_mem_cons] at h
    rw [segmentsOf, ih h.2]
    dsimp only
    rw [h.1, if_neg Bool.false_ne_true]

/-- A text that is empty or ends with a slash. -/
def EndsAtSlash (cs : List Char) : Prop := cs = [] ∨ ∃ front, cs = front ++ ['/']

/-- Behind such a text, another one is cut as it is on its own. -/
lemma exists_segmentsOf_append {front : List Char} (h : EndsAtSlash front) :
    ∃ raws, ∀ more, segmentsOf special (front ++ more) = raws ++ segmentsOf special more := by
  rcases h with rfl | ⟨front, rfl⟩
  · exact ⟨[], fun more => rfl⟩
  · refine ⟨segmentsOf special front, fun more => ?_⟩
    rw [List.append_assoc, List.singleton_append, segmentsOf_append]

/-! ### Fresh segments -/

variable {path : List String}

lemma isFresh_concat (path : List String) : isFresh (path ++ [""]) = true := by
  simp [isFresh]

/-- A path is fresh if an empty segment is open. -/
lemma dropLast_append_of_isFresh (h : isFresh path = true) : path.dropLast ++ [""] = path := by
  rw [isFresh, decide_eq_true_eq] at h
  exact List.dropLast_append_getLast? "" h

lemma reopen_of_isFresh (h : isFresh path = true) : reopen false path = path :=
  dropLast_append_of_isFresh h

lemma extend_of_isFresh (h : isFresh path = true) (text : String) :
    extend path text = path.dropLast ++ [text] := by
  rw [isFresh, decide_eq_true_eq] at h
  rw [extend, h, Option.getD_some, String.empty_append]

lemma isFresh_goUp (path : List String) : isFresh (goUp false path) = true :=
  isFresh_concat _

/-! ### Following -/

/-- What a slash closes leaves a fresh path. -/
lemma isFresh_followSegment (path : List String) (raw : List Char) :
    isFresh (followSegment false true path raw) = true := by
  unfold followSegment
  split
  case h_1 =>
    split
    case isTrue h => exact h
    case isFalse => exact isFresh_concat path
  case h_2 => simp [isFresh_goUp]
  case h_3 => exact isFresh_concat _

/-- Follow raw segments, all of them closed by a slash. -/
def followClosed (path : List String) (raws : List (List Char)) : List String :=
  raws.foldl (followSegment false true) path

lemma isFresh_followClosed (h : isFresh path = true) (raws : List (List Char)) :
    isFresh (followClosed path raws) = true := by
  induction raws generalizing path with
  | nil => exact h
  | cons raw raws ih => exact ih (isFresh_followSegment path raw)

/-- Raw segments before others are closed. -/
lemma follow_append (path : List String) (raws : List (List Char)) {rest : List (List Char)}
    (hrest : rest ≠ []) :
    follow false path (raws ++ rest) = follow false (followClosed path raws) rest := by
  induction raws generalizing path with
  | nil => rfl
  | cons raw raws ih =>
    have hclosed : (!(raws ++ rest).isEmpty) = true := by simp [hrest]
    rw [List.cons_append, follow, hclosed, ih]
    rfl

lemma followSegment_nil (h : isFresh path = true) : followSegment false false path [] = path := by
  have hextend : followSegment false false path [] = extend path "" := rfl
  rw [hextend, extend_of_isFresh h, dropLast_append_of_isFresh h]

/-! ### Plain segments -/

lemma plainDots_of_notMem {cs : List Char} (h : '%' ∉ cs) : plainDots cs = cs := by
  induction cs with
  | nil => rfl
  | cons c cs ih =>
    rw [List.mem_cons, not_or] at h
    unfold plainDots
    split
    case h_1 heq => exact absurd (List.head_eq_of_cons_eq heq).symm h.1
    case h_2 heq => exact absurd (List.head_eq_of_cons_eq heq).symm h.1
    case h_3 heq =>
      cases heq
      rw [ih h.2]
    case h_4 heq => cases heq

lemma toNat_of_isAlphanum {c : Char} (h : c.isAlphanum = true) :
    48 ≤ c.toNat ∧ c.toNat ≤ 122 := by
  change ((decide (c.val ≥ 'A'.val ∧ c.val ≤ 'Z'.val) ||
    (decide (c.val ≥ 'a'.val) && decide (c.val ≤ 'z'.val))) ||
    (decide (c.val ≥ '0'.val) && decide (c.val ≤ '9'.val))) = true at h
  simp only [Bool.or_eq_true, Bool.and_eq_true, decide_eq_true_eq, ge_iff_le,
    UInt32.le_iff_toNat_le] at h
  change ((65 ≤ c.toNat ∧ c.toNat ≤ 90) ∨ (97 ≤ c.toNat ∧ c.toNat ≤ 122)) ∨
    (48 ≤ c.toNat ∧ c.toNat ≤ 57) at h
  omega

/-- A text of letters and digits. -/
def IsPlain (cs : List Char) : Prop := ∀ c ∈ cs, c.isAlphanum = true

instance (cs : List Char) : Decidable (IsPlain cs) :=
  decidable_of_iff (cs.all Char.isAlphanum = true) List.all_eq_true

lemma encodeChar_of_isAlphanum {c : Char} (h : c.isAlphanum = true) :
    Percent.encodeChar Percent.inPath c = [c] := by
  obtain ⟨hlow, hhigh⟩ := toNat_of_isAlphanum h
  have hlisted : ∀ ds : List Char, ds.all (!·.isAlphanum) = true → ds.contains c = false := by
    refine fun ds hds => Bool.eq_false_iff.2 fun hmem => ?_
    have hc := List.all_eq_true.1 hds c (List.contains_iff_mem.1 hmem)
    rw [h] at hc
    cases hc
  have hcontrol : Percent.isControl c = false := by
    simp only [Percent.isControl, Bool.or_eq_false_iff, decide_eq_false_iff_not]
    omega
  have hpath : Percent.inPath c = false := by
    rw [Percent.inPath, Percent.inFragment, hcontrol, hlisted _ (by decide), hlisted _ (by decide)]
    rfl
  rw [Percent.encodeChar, if_neg]
  rw [hpath, Bool.false_or, decide_eq_true_eq]
  omega

/-- It is no dots, and is written as it is. -/
lemma followSegment_of_isPlain {cs : List Char} (h : IsPlain cs) (path : List String) :
    followSegment false false path cs = extend path (String.ofList cs) := by
  have hdot : '.' ∉ cs := fun hmem => absurd (h _ hmem) (by decide)
  have hpercent : '%' ∉ cs := fun hmem => absurd (h _ hmem) (by decide)
  have hraw : Segment.ofRaw cs = .named := by
    rw [Segment.ofRaw, plainDots_of_notMem hpercent, if_neg, if_neg] <;> rintro rfl <;> simp at hdot
  have htext : namedText cs = String.ofList cs := by
    have hencode : Percent.encode Percent.inPath cs = cs.flatMap ([·]) :=
      List.flatMap_congr fun c hc => encodeChar_of_isAlphanum (h c hc)
    rw [namedText, hencode, List.flatMap_singleton']
  unfold followSegment
  rw [hraw]
  simp [htext]

/-! ### Lengths -/

/-- How long a path is when it is written, a slash before every segment. -/
def size : List String → Nat
  | [] => 0
  | part :: path => part.length + 1 + size path

lemma size_append (path more : List String) : size (path ++ more) = size path + size more := by
  induction path with
  | nil => exact (Nat.zero_add _).symm
  | cons part path ih => rw [List.cons_append, size, size, ih, ← Nat.add_assoc]

lemma size_singleton (part : String) : size [part] = part.length + 1 := rfl

lemma size_eq_of_isFresh (h : isFresh path = true) : size path = size path.dropLast + 1 := by
  conv_lhs => rw [← dropLast_append_of_isFresh h]
  rw [size_append, size_singleton, String.length_empty]

lemma size_extend (h : isFresh path = true) (text : String) :
    size (extend path text) = size path + text.length := by
  rw [extend_of_isFresh h, size_eq_of_isFresh h, size_append, size_singleton]
  omega

lemma size_dropLast_le (path : List String) : size path.dropLast ≤ size path := by
  rcases List.eq_nil_or_concat path with rfl | ⟨front, last, rfl⟩
  · exact Nat.le_refl _
  · rw [List.concat_eq_append, List.dropLast_concat, size_append]
    exact Nat.le_add_right _ _

/-- To go up does not make a path longer. -/
lemma size_goUp_le (h : isFresh path = true) : size (goUp false path) ≤ size path := by
  have hsize := size_eq_of_isFresh h
  have hreopen : ∀ path : List String, size (reopen false path) = size path.dropLast + 1 :=
    fun path => size_append path.dropLast [""]
  unfold goUp
  dsimp only
  rw [hreopen]
  split
  · have hup := size_dropLast_le path.dropLast
    omega
  · omega

/-- What is named is added with the slash that closes it. -/
lemma size_close_extend (h : isFresh path = true) (raw : List Char) :
    size (close (extend path (namedText raw))) = size path + (namedText raw).length + 1 := by
  rw [close, size_append, size_extend h]
  rfl

/-- A segment that a slash closes makes a path longer by its own text and the slash at most. -/
lemma size_followSegment_le (h : isFresh path = true) (raw : List Char) :
    size (followSegment false true path raw) ≤ size path + (namedText raw).length + 1 := by
  unfold followSegment
  split
  case h_1 =>
    rw [if_pos h]
    omega
  case h_2 =>
    have hup := size_goUp_le h
    simp only [isFresh_goUp, Bool.not_true, Bool.and_false, if_neg Bool.false_ne_true]
    omega
  case h_3 => exact Nat.le_of_eq (size_close_extend h raw)

/-! ### Segments with a colon -/

lemma colon_mem_plainDots {cs : List Char} (h : ':' ∈ cs) : ':' ∈ plainDots cs := by
  fun_induction plainDots cs with
  | case1 rest ih | case2 rest ih =>
    simp only [List.mem_cons, Char.reduceEq, false_or] at h
    exact List.mem_cons_of_mem _ (ih h)
  | case3 c rest _ _ ih => exact List.mem_cons.2 ((List.mem_cons.1 h).imp_right ih)
  | case4 => cases h

/-- A segment with a colon is no dots. -/
lemma followSegment_of_colon_mem {cs : List Char} (h : ':' ∈ cs) (path : List String) :
    followSegment false true path cs = close (extend path (namedText cs)) := by
  have hcolon := colon_mem_plainDots h
  have hraw : Segment.ofRaw cs = .named := by
    rw [Segment.ofRaw, if_neg, if_neg] <;> intro hdots <;> rw [hdots] at hcolon <;> simp at hcolon
  unfold followSegment
  rw [hraw]
  rfl

/-- What stands before and at a colon makes a text longer. -/
lemma length_namedText_lt (name rest : List Char) :
    (namedText rest).length < (namedText (name ++ ':' :: rest)).length := by
  have hcolon : Percent.encodeChar Percent.inPath ':' = [':'] := by decide
  simp only [namedText, String.length_ofList, Percent.encode, List.flatMap_append,
    List.flatMap_cons, hcolon, List.length_append, List.length_cons, List.length_nil]
  omega

end MeshRoom.Url
