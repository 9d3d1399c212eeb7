import MeshRoom.Json.Token
import MeshRoom.Proofs.Number.Shortest

/-!
# Numbers read back from their text

A number literal with all its parts in order is read from its characters part by part. Integers in
plain digits are such literals, and so are the shortest decimals of doubles, however they are laid
out; what they denote is the number that was written.
-/

namespace MeshRoom

/-! ### Digits -/

namespace Text

lemma decimalValue_append (cs ds : List Char) :
    decimalValue (cs ++ ds) = 10 ^ ds.length * decimalValue cs + decimalValue ds := by
  have happend : decimalValue (cs ++ ds) = Nat.ofDigitChars 10 ds (Nat.ofDigitChars 10 cs 0) :=
    Nat.ofDigitChars_append 0
  rw [happend, Nat.ofDigitChars_eq_ofDigitChars_zero]
  rfl

lemma decimalValue_zeros (n : Nat) : decimalValue (List.replicate n '0') = 0 := by
  have hzeros : Nat.ofDigitChars 10 (List.replicate n '0') 0 = 10 ^ n * 0 :=
    Nat.ofDigitChars_replicate_zero
  exact hzeros.trans (Nat.mul_zero _)

lemma decimalValue_toDigits (n : Nat) : decimalValue (Nat.toDigits 10 n) = n :=
  Nat.ofDigitChars_ten_toDigits

end Text

/-- Only digits. -/
def AllDigits (cs : List Char) : Prop := ∀ c ∈ cs, c.isDigit = true

lemma allDigits_toDigits (n : Nat) : AllDigits (Nat.toDigits 10 n) :=
  fun _ hc => Nat.isDigit_of_mem_toDigits (by decide) (by decide) hc

namespace Json.Literal

/-! ### Characters of a literal -/

/-- The characters of a fraction. -/
def fractionChars : Option (List Char) → List Char
  | none => []
  | some ds => '.' :: ds

/-- The characters of an exponent, its sign always written. -/
def exponentChars : Option (Bool × List Char) → List Char
  | none => []
  | some (negative, ds) => 'e' :: (if negative then '-' else '+') :: ds

/-- The characters of a literal. -/
def chars (l : Literal) : List Char :=
  (if l.negative then ['-'] else []) ++
    (l.whole ++ (fractionChars l.fraction ++ exponentChars l.exponent))

/-- Every part of a literal is there as it must be. -/
structure IsProper (l : Literal) : Prop where
  whole : whole? l.whole = some l.whole
  wholeDigits : AllDigits l.whole
  fraction : ∀ ds ∈ l.fraction, ds ≠ [] ∧ AllDigits ds
  exponent : ∀ e ∈ l.exponent, e.2 ≠ [] ∧ AllDigits e.2

/-- Digits are taken up to what is no digit. -/
lemma span_digits {ds rest : List Char} (hds : AllDigits ds)
    (hrest : ∀ c ∈ rest.head?, c.isDigit = false) :
    (ds ++ rest).takeWhile Char.isDigit = ds ∧ (ds ++ rest).dropWhile Char.isDigit = rest := by
  rw [List.takeWhile_append_of_pos hds, List.dropWhile_append_of_pos hds]
  cases rest with
  | nil => simp
  | cons c cs =>
    have hc : c.isDigit = false := hrest c rfl
    simp [hc]

lemma isDigit_head_exponentChars (e : Option (Bool × List Char)) :
    ∀ c ∈ (exponentChars e).head?, c.isDigit = false := by
  intro c hc
  cases e with
  | none => cases hc
  | some e =>
    cases hc
    rfl

lemma isDigit_head_fractionChars (f : Option (List Char)) (e : Option (Bool × List Char)) :
    ∀ c ∈ (fractionChars f ++ exponentChars e).head?, c.isDigit = false := by
  cases f with
  | none => exact isDigit_head_exponentChars e
  | some ds =>
    intro c hc
    cases hc
    rfl

lemma exponent?_chars {e : Option (Bool × List Char)}
    (h : ∀ p ∈ e, p.2 ≠ [] ∧ AllDigits p.2) : exponent? (exponentChars e) = some e := by
  match e with
  | none => rfl
  | some (negative, ds) =>
    obtain ⟨hne, hds⟩ := h _ rfl
    have hall : ds.all Char.isDigit = true := List.all_eq_true.2 hds
    cases negative with
    | false => simp_all [exponentChars, exponent?]
    | true => simp_all [exponentChars, exponent?]

lemma fraction?_chars {f : Option (List Char)} (e : Option (Bool × List Char))
    (h : ∀ ds ∈ f, ds ≠ [] ∧ AllDigits ds) :
    fraction? (fractionChars f ++ exponentChars e) = some (f, exponentChars e) := by
  match f with
  | none =>
    match e with
    | none => rfl
    | some _ => rfl
  | some ds =>
    obtain ⟨hne, hds⟩ := h ds rfl
    obtain ⟨htake, hdrop⟩ := span_digits hds (isDigit_head_exponentChars e)
    simp [fractionChars, fraction?, htake, hdrop, hne]

/-- The literal of a sign and what follows it. -/
def unsigned? (negative : Bool) (cs : List Char) : Option Literal := do
  let whole ← whole? (cs.takeWhile Char.isDigit)
  let (fraction, rest) ← fraction? (cs.dropWhile Char.isDigit)
  let exponent ← exponent? rest
  some ⟨negative, whole, fraction, exponent⟩

lemma ofWord?_minus (cs : List Char) : ofWord? ('-' :: cs) = unsigned? true cs := rfl

lemma ofWord?_of_ne {c : Char} (hc : c ≠ '-') (cs : List Char) :
    ofWord? (c :: cs) = unsigned? false (c :: cs) := by
  simp [ofWord?, unsigned?, hc]

lemma unsigned?_parts {whole : List Char} {fraction : Option (List Char)}
    {exponent : Option (Bool × List Char)} {negative : Bool}
    (h : IsProper ⟨negative, whole, fraction, exponent⟩) :
    unsigned? negative (whole ++ (fractionChars fraction ++ exponentChars exponent))
      = some ⟨negative, whole, fraction, exponent⟩ := by
  have hwhole : whole? whole = some whole := h.whole
  obtain ⟨htake, hdrop⟩ :=
    span_digits h.wholeDigits (isDigit_head_fractionChars fraction exponent)
  dsimp only at htake hdrop
  rw [unsigned?, htake, hdrop, hwhole, fraction?_chars exponent h.fraction]
  simp [exponent?_chars h.exponent]

/-- A literal is read from its characters. -/
theorem ofWord?_chars {l : Literal} (h : l.IsProper) : ofWord? l.chars = some l := by
  obtain ⟨negative, whole, fraction, exponent⟩ := l
  cases negative with
  | true => exact (ofWord?_minus _).trans (unsigned?_parts h)
  | false =>
    have hparts := unsigned?_parts h
    match whole, h.whole, h.wholeDigits with
    | c :: cs, _, hdigits =>
      have hc : c ≠ '-' := by
        rintro rfl
        exact absurd (hdigits _ List.mem_cons_self) (by decide)
      exact (ofWord?_of_ne hc _).trans hparts

/-! ### Whole parts -/

lemma whole?_of_ne {c : Char} (hc : c ≠ '0') (cs : List Char) :
    whole? (c :: cs) = some (c :: cs) := by
  unfold whole?
  split
  case h_1 h => cases h
  case h_2 => rfl
  case h_3 h =>
    cases h
    exact absurd rfl hc
  case h_4 => rfl

/-- The digits of a number that is not zero start with one that is not. -/
lemma exists_toDigits {n : Nat} (hn : 0 < n) : ∃ c cs, Nat.toDigits 10 n = c :: cs ∧ c ≠ '0' := by
  induction n using Nat.strongRecOn with
  | ind n ih =>
    rw [Nat.toDigits_eq_if (by decide)]
    split
    case isTrue => exact ⟨_, _, rfl, fun hzero => by rw [Nat.digitChar_eq_zero] at hzero; omega⟩
    case isFalse hlarge =>
      obtain ⟨c, cs, hdigits, hc⟩ := ih (n / 10) (by omega) (by omega)
      exact ⟨c, _, by rw [hdigits]; rfl, hc⟩

/-- The digits of a number are a whole part. -/
lemma whole?_toDigits (n : Nat) : whole? (Nat.toDigits 10 n) = some (Nat.toDigits 10 n) := by
  rcases Nat.eq_zero_or_pos n with rfl | hn
  · rfl
  · obtain ⟨c, cs, hdigits, hc⟩ := exists_toDigits hn
    rw [hdigits, whole?_of_ne hc]

end Json.Literal

/-! ### Significant digits -/

/-- A number is its significant digits with zeros after them. -/
lemma toDigits_eq_significantDigits (n : Nat) : ∃ zeros,
    Nat.toDigits 10 n = significantDigits n ++ List.replicate zeros '0' := by
  let trailing := (Nat.toDigits 10 n).reverse.takeWhile fun c => decide (c = '0')
  have hsplit : trailing ++ ((Nat.toDigits 10 n).reverse.dropWhile fun c => decide (c = '0'))
      = (Nat.toDigits 10 n).reverse := List.takeWhile_append_dropWhile
  have hzeros : trailing.reverse = List.replicate trailing.length '0' := by
    refine List.eq_replicate_iff.2 ⟨List.length_reverse, fun c hc => ?_⟩
    have hall := List.all_eq_true.1 List.all_takeWhile c (List.mem_reverse.1 hc)
    exact of_decide_eq_true hall
  refine ⟨trailing.length, ?_⟩
  rw [significantDigits, ← hzeros, ← List.reverse_append, hsplit, List.reverse_reverse]

/-- The significant digits of a number that is not zero start with one that is not. -/
lemma exists_significantDigits {n : Nat} (hn : 0 < n) : ∃ c cs zeros,
    significantDigits n = c :: cs ∧ c ≠ '0' ∧ AllDigits (c :: cs) ∧
      (Nat.toDigits 10 n).length = (c :: cs).length + zeros ∧
      n = Text.decimalValue (c :: cs) * 10 ^ zeros := by
  obtain ⟨zeros, hsplit⟩ := toDigits_eq_significantDigits n
  obtain ⟨d, ds, hdigits, hd⟩ := Json.Literal.exists_toDigits hn
  have hall := allDigits_toDigits n
  cases hsig : significantDigits n with
  | nil =>
    rw [hsig, List.nil_append, hdigits] at hsplit
    cases zeros with
    | zero => cases hsplit
    | succ zeros =>
      cases hsplit
      exact absurd rfl hd
  | cons c cs =>
    rw [hsig] at hsplit
    refine ⟨c, cs, zeros, rfl, ?_, ?_, ?_, ?_⟩
    · rw [hdigits] at hsplit
      cases hsplit
      exact hd
    · intro e he
      exact hall e (by rw [hsplit]; exact List.mem_append_left _ he)
    · rw [hsplit, List.length_append, List.length_replicate]
    · conv_lhs => rw [← Text.decimalValue_toDigits n]
      rw [hsplit, Text.decimalValue_append, Text.decimalValue_zeros, List.length_replicate,
        Nat.add_zero, Nat.mul_comm]

/-! ### Layouts -/

namespace Json.Literal

/-- A literal, though not a plain integer, that stands for the digits `ds` with the first of them at
the place `lead`. -/
structure Holds (l : Literal) (ds : List Char) (lead : Int) : Prop where
  proper : l.IsProper
  notInteger : l.isInteger = false
  value : ∃ zeros : Nat,
    l.decimal = ⟨Text.decimalValue ds * 10 ^ zeros, lead + 1 - ds.length - zeros⟩

variable {c : Char} {cs : List Char} (negative : Bool)

/-- All digits stand before the point. -/
lemma holds_before (hc : c ≠ '0') (hdigits : AllDigits (c :: cs)) (zeros : Nat) :
    Holds ⟨negative, (c :: cs) ++ List.replicate zeros '0', some ['0'], none⟩ (c :: cs)
      (cs.length + zeros) where
  proper :=
    { whole := whole?_of_ne hc _
      wholeDigits := by
        intro d hd
        rcases List.mem_append.1 hd with hd | hd
        · exact hdigits d hd
        · rw [List.eq_of_mem_replicate hd]
          rfl
      fraction := by simp [AllDigits]
      exponent := by simp }
  notInteger := rfl
  value := by
    refine ⟨zeros + 1, ?_⟩
    have hvalue : Text.decimalValue ((c :: cs) ++ List.replicate zeros '0' ++ ['0'])
        = Text.decimalValue (c :: cs) * 10 ^ (zeros + 1) := by
      rw [Text.decimalValue_append, Text.decimalValue_append, Text.decimalValue_zeros,
        List.length_replicate, List.length_singleton, Nat.pow_succ]
      have hzero : Text.decimalValue ['0'] = 0 := rfl
      rw [hzero]
      ring
    simp only [decimal, Option.getD_some, hvalue, List.length_cons, List.length_nil,
      Decimal.mk.injEq, true_and]
    omega

/-- The point stands between the digits. -/
lemma holds_between (hc : c ≠ '0') (hdigits : AllDigits (c :: cs)) {k : Nat} (hk : k < cs.length) :
    Holds ⟨negative, (c :: cs).take (k + 1), some ((c :: cs).drop (k + 1)), none⟩ (c :: cs) k where
  proper :=
    { whole := whole?_of_ne hc _
      wholeDigits := fun d hd => hdigits d (List.mem_of_mem_take hd)
      fraction := by
        rintro ds ⟨⟩
        refine ⟨?_, fun d hd => hdigits d (List.mem_of_mem_drop hd)⟩
        simpa using hk
      exponent := by simp }
  notInteger := rfl
  value := by
    refine ⟨0, ?_⟩
    simp only [decimal, Option.getD_some, List.take_append_drop, List.length_drop, List.length_cons,
      Nat.pow_zero, Nat.mul_one, Decimal.mk.injEq, true_and]
    omega

/-- All digits stand behind the point. -/
lemma holds_behind (hdigits : AllDigits (c :: cs)) (zeros : Nat) :
    Holds ⟨negative, ['0'], some (List.replicate zeros '0' ++ c :: cs), none⟩ (c :: cs)
      (Int.negSucc zeros) where
  proper :=
    { whole := rfl
      wholeDigits := by simp [AllDigits]
      fraction := by
        rintro ds ⟨⟩
        refine ⟨by simp, fun d hd => ?_⟩
        rcases List.mem_append.1 hd with hd | hd
        · rw [List.eq_of_mem_replicate hd]
          rfl
        · exact hdigits d hd
      exponent := by simp }
  notInteger := rfl
  value := by
    refine ⟨0, ?_⟩
    have hvalue : Text.decimalValue (['0'] ++ (List.replicate zeros '0' ++ c :: cs))
        = Text.decimalValue (c :: cs) := by
      rw [Text.decimalValue_append, Text.decimalValue_append, Text.decimalValue_zeros]
      have hzero : Text.decimalValue ['0'] = 0 := rfl
      rw [hzero]
      ring
    simp only [decimal, Option.getD_some, hvalue, List.length_append, List.length_replicate,
      List.length_cons, Nat.pow_zero, Nat.mul_one, Decimal.mk.injEq, true_and]
    omega

/-- The point stands after the first digit, and an exponent says where it belongs. -/
lemma holds_scientific (hc : c ≠ '0') (hdigits : AllDigits (c :: cs)) (lead : Int) :
    Holds ⟨negative, [c], if cs = [] then none else some cs,
      some (lead < 0, Nat.toDigits 10 lead.natAbs)⟩ (c :: cs) lead where
  proper :=
    { whole := whole?_of_ne hc _
      wholeDigits := fun d hd => hdigits d (by simp_all)
      fraction := by
        intro ds hds
        split at hds
        case isTrue => cases hds
        case isFalse hne =>
          cases hds
          exact ⟨hne, fun d hd => hdigits d (List.mem_cons_of_mem c hd)⟩
      exponent := by
        rintro e ⟨⟩
        exact ⟨Nat.toDigits_ne_nil, allDigits_toDigits _⟩ }
  notInteger := by simp [isInteger]
  value := by
    refine ⟨0, ?_⟩
    have hfraction : (if cs = [] then none else some cs).getD [] = cs := by
      split
      case isTrue hnil => rw [hnil]; rfl
      case isFalse => rfl
    have habs : Text.decimalValue (Nat.toDigits 10 lead.natAbs) = lead.natAbs :=
      Text.decimalValue_toDigits _
    by_cases hneg : lead < 0
    · simp only [decimal, hfraction, hneg, decide_true, habs, List.cons_append, List.nil_append,
        List.length_cons, Nat.pow_zero, Nat.mul_one, Decimal.mk.injEq, true_and]
      omega
    · simp only [decimal, hfraction, hneg, decide_false, habs, List.cons_append, List.nil_append,
        List.length_cons, Nat.pow_zero, Nat.mul_one, Decimal.mk.injEq, true_and]
      omega

end Json.Literal

namespace Layout

open Json

variable {f : Format}

/-- A decimal laid out is a literal, though not a plain integer, which stands for the decimal as far
as a format can tell. -/
structure Spells (f : Format) (negative : Bool) (d : Decimal) (l : Literal) : Prop where
  proper : l.IsProper
  sign : l.negative = negative
  notInteger : l.isInteger = false
  value : f.ofDecimal l.decimal.digits l.decimal.exponent = f.ofDecimal d.digits d.exponent

/-- A literal that holds the significant digits of a decimal at their place spells it. -/
lemma Spells.of_holds (hf : f.IsProper) {negative : Bool} {d : Decimal} {l : Literal} {c : Char}
    {cs : List Char} {zeros : Nat} (hl : l.Holds (c :: cs) (d.exponent + cs.length + zeros))
    (hsign : l.negative = negative)
    (hvalue : d.digits = Text.decimalValue (c :: cs) * 10 ^ zeros) : Spells f negative d l where
  proper := hl.proper
  sign := hsign
  notInteger := hl.notInteger
  value := by
    obtain ⟨more, hdecimal⟩ := hl.value
    have hplace : d.exponent + cs.length + zeros + 1 - ((c :: cs).length : Int)
        = d.exponent + zeros := by
      rw [List.length_cons]
      omega
    have hback : d.exponent = d.exponent + zeros - zeros := by omega
    rw [hdecimal, hf.ofDecimal_zeros, hplace, hvalue, hback, hf.ofDecimal_zeros, ← hback]

/-- Digits laid out with the first of them at a place. -/
def placed (layout : Layout) (digits : List Char) (lead : Int) : List Char :=
  if layout.least ≤ lead ∧ lead ≤ layout.greatest then
    match lead with
    | .ofNat e =>
      digits.take (e + 1) ++ List.replicate (e + 1 - digits.length) '0' ++ '.' ::
        (if (digits.drop (e + 1)).isEmpty then ['0'] else digits.drop (e + 1))
    | .negSucc e => '0' :: '.' :: List.replicate e '0' ++ digits
  else
    digits.take 1 ++ (if (digits.drop 1).isEmpty then [] else '.' :: digits.drop 1) ++
      'e' :: signedExponent lead

lemma text_eq_placed (layout : Layout) {d : Decimal} (hd : d.digits ≠ 0) :
    layout.text d = layout.placed (significantDigits d.digits)
      (d.exponent + (Nat.toDigits 10 d.digits).length - 1) := by
  rw [text, if_neg hd]
  rfl

/-- Digits laid out are a literal that holds them. -/
lemma exists_holds (layout : Layout) (negative : Bool) {c : Char} {cs : List Char} (hc : c ≠ '0')
    (hdigits : AllDigits (c :: cs)) (lead : Int) : ∃ l : Literal, l.Holds (c :: cs) lead ∧
      l.negative = negative ∧
        l.chars = (if negative then ['-'] else []) ++ layout.placed (c :: cs) lead := by
  rw [placed.eq_def]
  by_cases hplace : layout.least ≤ lead ∧ lead ≤ layout.greatest
  case neg =>
    rw [if_neg hplace]
    refine ⟨_, Literal.holds_scientific negative hc hdigits lead, rfl, ?_⟩
    cases cs with
    | nil => by_cases hneg : lead < 0 <;>
        simp [Literal.chars, Literal.fractionChars, Literal.exponentChars, signedExponent, hneg]
    | cons d ds => by_cases hneg : lead < 0 <;>
        simp [Literal.chars, Literal.fractionChars, Literal.exponentChars, signedExponent, hneg]
  case pos =>
    rw [if_pos hplace]
    cases lead with
    | negSucc e =>
      refine ⟨_, Literal.holds_behind negative hdigits e, rfl, ?_⟩
      simp [Literal.chars, Literal.fractionChars, Literal.exponentChars]
    | ofNat e =>
      by_cases he : e < cs.length
      · refine ⟨_, Literal.holds_between negative hc hdigits he, rfl, ?_⟩
        have hrest : cs.drop e ≠ [] := by simpa using he
        have hfull : e + 1 - (cs.length + 1) = 0 := by omega
        simp [Literal.chars, Literal.fractionChars, Literal.exponentChars, hfull, hrest]
      · obtain ⟨zeros, rfl⟩ := Nat.exists_eq_add_of_le (Nat.le_of_not_lt he)
        refine ⟨_, Literal.holds_before negative hc hdigits zeros, rfl, ?_⟩
        have hzeros : cs.length + zeros + 1 - (cs.length + 1) = zeros := by omega
        have hall : cs.take (cs.length + zeros) = cs :=
          List.take_of_length_le (Nat.le_add_right _ _)
        simp [Literal.chars, Literal.fractionChars, Literal.exponentChars, hzeros, hall]

/-- The text of a decimal spells it. -/
theorem exists_spells (hf : f.IsProper) (layout : Layout) (negative : Bool) (d : Decimal) :
    ∃ l : Literal, Spells f negative d l ∧
      l.chars = (if negative then ['-'] else []) ++ layout.text d := by
  rcases Nat.eq_zero_or_pos d.digits with hzero | hpos
  · refine ⟨⟨negative, ['0'], some ['0'], none⟩, ⟨?_, rfl, rfl, ?_⟩, ?_⟩
    · exact ⟨rfl, by simp [AllDigits], by simp [AllDigits], by simp⟩
    · rw [hzero]
      rfl
    · rw [text, if_pos hzero]
      rfl
  · obtain ⟨c, cs, zeros, hsig, hc, hall, hlength, hvalue⟩ := exists_significantDigits hpos
    have hlead : d.exponent + ((Nat.toDigits 10 d.digits).length : Int) - 1
        = d.exponent + cs.length + zeros := by
      rw [hlength, List.length_cons]
      omega
    obtain ⟨l, hl, hsign, hchars⟩ :=
      exists_holds layout negative hc hall (d.exponent + cs.length + zeros)
    refine ⟨l, .of_holds hf hl hsign hvalue, ?_⟩
    rw [hchars, text_eq_placed layout (Nat.ne_of_gt hpos), hsig, hlead]

end Layout

/-! ### Numbers -/

namespace Json

lemma Number.exists_literal_integer (i : Int) (fits : Number.Fits i) : ∃ l : Literal,
    l.IsProper ∧ l.number? = some (.integer i fits) ∧ l.chars = (Number.integer i fits).text := by
  let l : Literal := ⟨i < 0, Nat.toDigits 10 i.natAbs, none, none⟩
  have hvalue : Text.decimalValue l.whole = i.natAbs := Text.decimalValue_toDigits _
  have hinteger : l.isInteger = true := by
    have hzero : 0 ≤ i ∨ ¬ i = 0 := by omega
    simpa [Literal.isInteger, hvalue, l] using hzero
  have hsigned : (if l.negative then -(Text.decimalValue l.whole : Int)
      else Text.decimalValue l.whole) = i := by
    rw [hvalue]
    by_cases hi : i < 0
    · simp only [l, hi, decide_true, if_true]
      omega
    · simp only [l, hi, decide_false, Bool.false_eq_true, if_false]
      omega
  refine ⟨l, ⟨Literal.whole?_toDigits _, allDigits_toDigits _, by simp [l], by simp [l]⟩, ?_, ?_⟩
  · simp only [Literal.number?, hsigned]
    rw [dif_pos ⟨hinteger, fits⟩]
  · simp [Literal.chars, Literal.fractionChars, Literal.exponentChars, Number.text, l]

lemma Number.exists_literal_real (x : Double) : ∃ l : Literal,
    l.IsProper ∧ l.number? = some (.real x) ∧ l.chars = (Number.real x).text := by
  obtain ⟨l, hspells, hchars⟩ := Layout.exists_spells Format.isProper_double Double.layout
    x.negative (Format.double.shortest x.code)
  have hcode : Format.double.ofDecimal l.decimal.digits l.decimal.exponent = x.code :=
    hspells.value.trans (Format.isProper_double.ofDecimal_shortest x.finite)
  refine ⟨l, hspells.proper, ?_, hchars⟩
  rw [Literal.number?, dif_neg (by simp [hspells.notInteger]), Double.ofDecimal?, hcode,
    hspells.sign, Double.ofCode?, dif_pos x.finite]
  rfl

/-- The text of a number is a literal that denotes it. -/
theorem Number.exists_literal (n : Number) :
    ∃ l : Literal, l.IsProper ∧ l.number? = some n ∧ l.chars = n.text := by
  cases n with
  | integer i fits => exact exists_literal_integer i fits
  | real x => exact exists_literal_real x

namespace Literal

lemma isWordChar_of_isDigit {c : Char} (hc : c.isDigit = true) : isWordChar c = true := by
  simp [isWordChar, Char.isAlphanum, hc]

/-- A literal has no character that could end a word. -/
lemma isWordChar_chars {l : Literal} (h : l.IsProper) : ∀ c ∈ l.chars, isWordChar c = true := by
  intro c hc
  simp only [chars, List.mem_append] at hc
  rcases hc with hc | hc | hc | hc
  · split at hc
    · rw [List.mem_singleton.1 hc]
      rfl
    · cases hc
  · exact isWordChar_of_isDigit (h.wholeDigits c hc)
  · cases hfraction : l.fraction with
    | none => simp [hfraction, fractionChars] at hc
    | some ds =>
      rw [hfraction] at hc
      rcases List.mem_cons.1 hc with rfl | hc
      · rfl
      · exact isWordChar_of_isDigit ((h.fraction ds hfraction).2 c hc)
  · cases hexponent : l.exponent with
    | none => simp [hexponent, exponentChars] at hc
    | some e =>
      rw [hexponent] at hc
      rcases List.mem_cons.1 hc with rfl | hc
      · rfl
      rcases List.mem_cons.1 hc with rfl | hc
      · split <;> rfl
      · exact isWordChar_of_isDigit ((h.exponent e hexponent).2 c hc)

/-- A literal starts with a digit or a sign. -/
lemma exists_chars {l : Literal} (h : l.IsProper) :
    ∃ c cs, l.chars = c :: cs ∧ (c = '-' ∨ c.isDigit = true) := by
  cases hsign : l.negative with
  | true => exact ⟨'-', _, by rw [chars, hsign]; rfl, .inl rfl⟩
  | false =>
    match hwhole : l.whole, h.whole, h.wholeDigits with
    | c :: cs, _, hdigits =>
      exact ⟨c, _, by rw [chars, hsign, hwhole]; rfl, .inr (hdigits c List.mem_cons_self)⟩

end Literal

/-- The word of a number is the token of that number. -/
lemma Token.ofWord?_text (n : Number) : Token.ofWord? n.text = some (.number (some n)) := by
  obtain ⟨l, hproper, hnumber, hchars⟩ := n.exists_literal
  obtain ⟨c, cs, hcons, hc⟩ := Literal.exists_chars hproper
  have hne : ∀ d ds, (d = 'n' ∨ d = 't' ∨ d = 'f') → c :: cs ≠ d :: ds := by
    rintro d ds hd ⟨⟩
    rcases hc with rfl | hc
    · simp at hd
    · rcases hd with rfl | rfl | rfl <;> exact absurd hc (by decide)
  rw [← hchars, Token.ofWord?, Literal.ofWord?_chars hproper, hcons, if_neg (hne _ _ (by simp)),
    if_neg (hne _ _ (by simp)), if_neg (hne _ _ (by simp)), Option.map_some, hnumber]

lemma Number.isWordChar_text (n : Number) : ∀ c ∈ n.text, isWordChar c = true := by
  obtain ⟨l, hproper, -, hchars⟩ := n.exists_literal
  rw [← hchars]
  exact Literal.isWordChar_chars hproper

end Json

end MeshRoom
