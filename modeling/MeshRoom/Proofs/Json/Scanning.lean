import MeshRoom.Proofs.Json.Literal

/-!
# Values scanned back into tokens

The compact form of a value is scanned into the tokens of the value, whatever follows, as long as
what follows cannot lengthen a word.
-/

namespace MeshRoom.Json

/-! ### Tokens of a value -/

namespace Value

mutual

/-- The tokens of a value. -/
def tokens : Value → List Token
  | .null => [.null]
  | .bool b => [.bool b]
  | .number n => [.number (some n)]
  | .string s => [.string (some s)]
  | .array [] => [.openArray, .closeArray]
  | .array (v :: vs) => .openArray :: (v.tokens ++ (itemTokens vs ++ [.closeArray]))
  | .object [] => [.openObject, .closeObject]
  | .object ((k, v) :: ms) =>
    .openObject :: .string (some k) :: .colon :: (v.tokens ++ (memberTokens ms ++ [.closeObject]))

/-- The tokens of the items after the first. -/
def itemTokens : List Value → List Token
  | [] => []
  | v :: vs => .comma :: (v.tokens ++ itemTokens vs)

/-- The tokens of the members after the first. -/
def memberTokens : List (String × Value) → List Token
  | [] => []
  | (k, v) :: ms => .comma :: .string (some k) :: .colon :: (v.tokens ++ memberTokens ms)

end

end Value

/-! ### Single steps -/

namespace Scan

lemma run_of_silent {s u : Scan} {c : Char} (h : s.step c = some ([], u)) (cs : List Char) :
    s.run (c :: cs) = u.run cs := by
  simp only [run, h, Option.bind_eq_bind, Option.bind_some]
  cases u.run cs <;> rfl

lemma run_of_token {s u : Scan} {c : Char} {t : Token} (h : s.step c = some ([t], u))
    (cs : List Char) : s.run (c :: cs) = (u.run cs).map (t :: ·) := by
  simp only [run, h, Option.bind_eq_bind, Option.bind_some]
  cases u.run cs <;> rfl

/-- Nothing that could lengthen a word. -/
def Stops (rest : List Char) : Prop := ∀ c ∈ rest.head?, isWordChar c = false

lemma stops_cons {c : Char} (h : isWordChar c = false) (cs : List Char) : Stops (c :: cs) := by
  rintro d ⟨⟩
  exact h

/-- Characters are scanned into tokens before anything that stops. -/
def Scans (cs : List Char) (ts : List Token) : Prop :=
  ∀ rest, Stops rest → between.run (cs ++ rest) = (between.run rest).map (ts ++ ·)

lemma scans_nil : Scans [] [] := by
  intro rest _
  rw [List.nil_append]
  cases between.run rest <;> rfl

lemma run_punctuation {c : Char} {t : Token} (h : Token.ofPunctuation? c = some t)
    (cs : List Char) : between.run (c :: cs) = (between.run cs).map (t :: ·) := by
  refine run_of_token ?_ cs
  unfold Token.ofPunctuation? at h
  split at h <;> cases h <;> rfl

/-- Punctuation stands by itself. -/
lemma Scans.punctuation {c : Char} {t : Token} (h : Token.ofPunctuation? c = some t)
    {cs : List Char} {ts : List Token} (hcs : Scans cs ts) : Scans (c :: cs) (t :: ts) := by
  intro rest hrest
  rw [List.cons_append, run_punctuation h, hcs rest hrest, Option.map_map]
  rfl

/-- What is scanned before something that stops leaves that to be scanned. -/
lemma Scans.append {cs ds : List Char} {ts us : List Token} (hcs : Scans cs ts) (hds : Scans ds us)
    (hstops : ∀ rest, Stops rest → Stops (ds ++ rest)) : Scans (cs ++ ds) (ts ++ us) := by
  intro rest hrest
  rw [List.append_assoc, hcs _ (hstops rest hrest), hds rest hrest, Option.map_map]
  congr 1
  funext rest
  exact (List.append_assoc ts us rest).symm

/-! ### Words -/

lemma run_word {cs : List Char} (hcs : ∀ c ∈ cs, isWordChar c = true) (chars rest : List Char) :
    (word chars).run (cs ++ rest) = (word (cs.reverse ++ chars)).run rest := by
  induction cs generalizing chars with
  | nil => rfl
  | cons c cs ih =>
    have hc : isWordChar c = true := hcs c List.mem_cons_self
    rw [List.cons_append, run_of_silent (u := word (c :: chars)) (by simp [step, hc]),
      ih (fun d hd => hcs d (List.mem_cons_of_mem c hd)), List.reverse_cons, List.append_assoc]
    rfl

/-- A word ends where something stops it. -/
lemma run_word_stops {chars rest : List Char} {t : Token} (ht : finishWord chars = some t)
    (hrest : Stops rest) : (word chars).run rest = (between.run rest).map (t :: ·) := by
  cases rest with
  | nil =>
    rw [run, run, finish, finish, ht]
    rfl
  | cons c cs =>
    have hc : isWordChar c = false := hrest c rfl
    rw [run, run, step, step, hc, ht]
    cases enter c with
    | none => rfl
    | some entered =>
      obtain ⟨ts, s⟩ := entered
      cases s.run cs <;> simp

lemma step_of_isWordChar {c : Char} (hc : isWordChar c = true) :
    between.step c = some ([], word [c]) := by
  have hblank : isBlank c = false := by
    refine Bool.eq_false_iff.2 fun hblank => ?_
    simp only [isBlank, Bool.or_eq_true, decide_eq_true_eq] at hblank
    rcases hblank with ((rfl | rfl) | rfl) | rfl <;> exact absurd hc (by decide)
  have hquote : c ≠ '"' := by
    rintro rfl
    exact absurd hc (by decide)
  simp [step, enter, hblank, hquote, hc]

/-- A word is scanned into the token that it spells. -/
lemma Scans.word {cs : List Char} (hcs : cs.all isWordChar = true) {t : Token}
    (ht : Token.ofWord? cs = some t) : Scans cs [t] := by
  intro rest hrest
  have hcs := List.all_eq_true.1 hcs
  match cs with
  | [] => cases ht
  | c :: cs =>
    have hall : ∀ d ∈ cs, isWordChar d = true := fun d hd => hcs d (List.mem_cons_of_mem c hd)
    have hfinish : finishWord (cs.reverse ++ [c]) = some t := by
      rw [finishWord, List.reverse_append, List.reverse_reverse]
      exact ht
    rw [List.cons_append, run_of_silent (step_of_isWordChar (hcs c List.mem_cons_self)),
      run_word hall, run_word_stops hfinish hrest]
    rfl

end Scan

/-! ### Strings -/

/-- The piece that a character between quotes is read as. -/
def Piece.ofChar (c : Char) : Piece :=
  if (escape c).length = 6 then .unit c.toNat else .char c

lemma hexValue?_digitChar : ∀ d < 16, Text.hexValue? (Nat.digitChar d) = some d := by decide

/-- Pieces of characters spell the characters. -/
lemma Piece.assemble?_ofChar (cs : List Char) : assemble? (cs.map ofChar) = some cs := by
  induction cs with
  | nil => rfl
  | cons c cs ih =>
    rw [List.map_cons, ofChar]
    split
    case isTrue hlength =>
      -- only control characters are written as units
      have hcontrol : c.toNat < 0x20 := by
        unfold escape at hlength
        split at hlength
        all_goals try cases hlength
        split at hlength
        case isTrue h => exact h
        case isFalse => cases hlength
      have hplain : c.toNat < 0xD800 ∨ 0xDFFF < c.toNat := .inl (by omega)
      unfold assemble?
      rw [if_pos hplain, ih, Option.map_some, Char.ofNat_toNat]
    case isFalse => rw [assemble?, ih, Option.map_some]

namespace Scan

lemma run_unit {pieces : List Piece} {n : Nat} (hn : n < 0x20) (rest : List Char) :
    (string pieces).run
        (['\\', 'u', '0', '0', Nat.digitChar (n / 16), Nat.digitChar (n % 16)] ++ rest)
      = (string (.unit n :: pieces)).run rest := by
  have hhigh : Text.hexValue? (Nat.digitChar (n / 16)) = some (n / 16) :=
    hexValue?_digitChar _ (by omega)
  have hlow : Text.hexValue? (Nat.digitChar (n % 16)) = some (n % 16) :=
    hexValue?_digitChar _ (by omega)
  have hvalue : 16 * (n / 16) + n % 16 = n := by omega
  simp only [List.cons_append, List.nil_append]
  rw [run_of_silent (u := escape pieces) rfl, run_of_silent (u := unit pieces 0 4) rfl,
    run_of_silent (u := unit pieces 0 3) rfl, run_of_silent (u := unit pieces 0 2) rfl,
    run_of_silent (u := unit pieces (n / 16) 1) (by simp [step, hhigh]),
    run_of_silent (u := string (.unit n :: pieces)) (by simp [step, hlow, hvalue])]

/-- A character between quotes is one piece. -/
lemma run_escape (pieces : List Piece) (c : Char) (rest : List Char) :
    (string pieces).run (Json.escape c ++ rest) = (string (.ofChar c :: pieces)).run rest := by
  have hletter : ∀ {e d : Char}, Piece.ofEscape? e = some d → e ≠ 'u' →
      (string pieces).run (['\\', e] ++ rest) = (string (.char d :: pieces)).run rest := by
    intro e d he hu
    simp only [List.cons_append, List.nil_append]
    rw [run_of_silent (u := escape pieces) rfl,
      run_of_silent (u := string (.char d :: pieces)) (by simp [step, he, hu])]
  rw [Piece.ofChar]
  unfold Json.escape
  split
  case h_1 => exact hletter rfl (by decide)
  case h_2 => exact hletter rfl (by decide)
  case h_3 => exact hletter rfl (by decide)
  case h_4 => exact hletter rfl (by decide)
  case h_5 => exact hletter rfl (by decide)
  case h_6 => exact hletter rfl (by decide)
  case h_7 => exact hletter rfl (by decide)
  case h_8 hquote hbackslash _ _ _ _ _ =>
    split
    case isTrue hcontrol => exact run_unit hcontrol rest
    case isFalse hplain =>
      refine run_of_silent ?_ rest
      rw [step, if_neg hquote, if_neg hbackslash, if_neg hplain]
      rfl

lemma run_characters (cs : List Char) (pieces : List Piece) (rest : List Char) :
    (string pieces).run (cs.flatMap Json.escape ++ rest)
      = (string ((cs.map Piece.ofChar).reverse ++ pieces)).run rest := by
  induction cs generalizing pieces with
  | nil => rfl
  | cons c cs ih =>
    rw [List.flatMap_cons, List.append_assoc, run_escape, ih, List.map_cons, List.reverse_cons,
      List.append_assoc]
    rfl

lemma run_quote (s : String) (rest : List Char) :
    between.run (quote s ++ rest) = (between.run rest).map (.string (some s) :: ·) := by
  have hstring : (Piece.assemble? ((s.toList.map Piece.ofChar).reverse ++ []).reverse).map
      String.ofList = some s := by
    rw [List.append_nil, List.reverse_reverse, Piece.assemble?_ofChar, Option.map_some,
      String.ofList_toList]
  rw [quote, List.cons_append, List.cons_append, List.append_assoc,
    run_of_silent (u := string []) rfl, run_characters, List.singleton_append,
    run_of_token (u := between) (t := .string (some s)) (by rw [step, if_pos rfl, hstring])]

/-- A quoted string is scanned into its token. -/
lemma Scans.quote (s : String) {cs : List Char} {ts : List Token} (hcs : Scans cs ts) :
    Scans (Json.quote s ++ cs) (.string (some s) :: ts) := by
  intro rest hrest
  rw [List.append_assoc, run_quote, hcs rest hrest, Option.map_map]
  rfl

end Scan

/-! ### Containers -/

/-- Parts after the first follow a comma each. -/
lemma flatten_intersperse (part : List Char) (parts : List (List Char)) :
    ((part :: parts).intersperse [',']).flatten = part ++ parts.flatMap (',' :: ·) := by
  induction parts generalizing part with
  | nil => simp
  | cons next parts ih =>
    rw [List.intersperse_cons_cons, List.flatten_cons, List.flatten_cons, ih]
    rfl

namespace Scan

/-- No word goes on into the next part. -/
lemma stops_parts (parts : List (List Char)) {rest : List Char} (h : Stops rest) :
    Stops (parts.flatMap (',' :: ·) ++ rest) := by
  cases parts with
  | nil => exact h
  | cons part parts => exact stops_cons rfl _

/-- A bracket closes after parts that are scanned. -/
lemma Scans.close {parts : List (List Char)} {ts : List Token} {c : Char} {t : Token}
    (h : Scans (parts.flatMap (',' :: ·)) ts) (hc : isWordChar c = false)
    (ht : Token.ofPunctuation? c = some t) :
    Scans (parts.flatMap (',' :: ·) ++ [c]) (ts ++ [t]) :=
  h.append (scans_nil.punctuation ht) fun _ _ => stops_cons hc _

/-- A first part before other parts that are closed. -/
lemma Scans.first {part : List Char} {parts : List (List Char)} {ts us : List Token} {c : Char}
    (h : Scans part ts) (hc : isWordChar c = false)
    (hparts : Scans (parts.flatMap (',' :: ·) ++ [c]) us) :
    Scans (part ++ (parts.flatMap (',' :: ·) ++ [c])) (ts ++ us) := by
  refine h.append hparts fun rest _ => ?_
  rw [List.append_assoc]
  exact stops_parts parts (stops_cons hc rest)

end Scan

/-- An object member as it is written. -/
def memberText : String × List Char → List Char
  | (k, v) => quote k ++ ':' :: v

namespace Value

open Scan

lemma write_array (v : Value) (vs : List Value) : (array (v :: vs)).write
    = '[' :: (v.write ++ ((writeItems vs).flatMap (',' :: ·) ++ [']'])) := by
  rw [write, writeItems, writeArray, bracket, flatten_intersperse, List.cons_append,
    List.append_assoc]

lemma write_object (k : String) (v : Value) (ms : List (String × Value)) :
    (object ((k, v) :: ms)).write = '\x7b' :: (quote k ++ ':' ::
      (v.write ++ (((writeMembers ms).map memberText).flatMap (',' :: ·) ++ ['\x7d']))) := by
  rw [write, writeMembers, writeObject, bracket, List.map_cons, flatten_intersperse]
  simp only [List.cons_append, List.append_assoc]
  rfl

mutual

/-- The compact form of a value is scanned into its tokens. -/
theorem scans_write : (v : Value) → Scans v.write v.tokens
  | .null => .word rfl rfl
  | .bool true => .word rfl rfl
  | .bool false => .word rfl rfl
  | .number n => .word (List.all_eq_true.2 n.isWordChar_text) (Token.ofWord?_text n)
  | .string s => by simpa [write, tokens] using scans_nil.quote s
  | .array [] => (scans_nil.punctuation rfl).punctuation rfl
  | .array (v :: vs) => by
    rw [write_array, tokens]
    exact ((scans_write v).first rfl ((scans_items vs).close rfl rfl)).punctuation rfl
  | .object [] => (scans_nil.punctuation rfl).punctuation rfl
  | .object ((k, v) :: ms) => by
    rw [write_object, tokens]
    exact ((((scans_write v).first rfl ((scans_members ms).close rfl rfl)).punctuation
      rfl).quote k).punctuation rfl

lemma scans_items : (vs : List Value) → Scans ((writeItems vs).flatMap (',' :: ·)) (itemTokens vs)
  | [] => scans_nil
  | v :: vs => by
    rw [writeItems, List.flatMap_cons, List.cons_append, itemTokens]
    exact ((scans_write v).append (scans_items vs) fun _ => stops_parts _).punctuation rfl

lemma scans_members : (ms : List (String × Value)) →
    Scans (((writeMembers ms).map memberText).flatMap (',' :: ·)) (memberTokens ms)
  | [] => scans_nil
  | (k, v) :: ms => by
    rw [writeMembers, List.map_cons, List.flatMap_cons, List.cons_append, memberText,
      List.append_assoc, List.cons_append, memberTokens]
    exact (((((scans_write v).append (scans_members ms) fun _ => stops_parts _).punctuation
      rfl).quote k)).punctuation rfl

end

/-- The text of a value is scanned into its tokens. -/
theorem run_text (v : Value) : between.run v.text.toList = some v.tokens := by
  have hscan := v.scans_write [] (by rintro c ⟨⟩)
  simpa [text, run, finish] using hscan

end Value

end MeshRoom.Json
