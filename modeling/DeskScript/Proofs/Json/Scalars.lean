import DeskScript.Json.Printer
import DeskScript.Json.Reader
import DeskScript.Proofs.Text.Blank
import DeskScript.Proofs.Text.Numeral
import Mathlib.Data.List.TakeDrop

namespace DeskScript.Json

theorem hexDigit?_digitChar : ∀ n < 16, hexDigit? (Nat.digitChar n) = some n := by decide

theorem codeUnit?_hex (n : Nat) (hn : n < 65536) :
    ∃ a b c d, Text.hex 4 n = [a, b, c, d] ∧ codeUnit? a b c d = some n := by
  refine ⟨_, _, _, _, rfl, ?_⟩
  rw [codeUnit?, hexDigit?_digitChar _ (Nat.mod_lt _ (by decide)), hexDigit?_digitChar _ (Nat.mod_lt _ (by decide)),
    hexDigit?_digitChar _ (Nat.mod_lt _ (by decide)), hexDigit?_digitChar _ (Nat.mod_lt _ (by decide))]
  refine congrArg some ?_
  omega

theorem readUnits_unescape (c c' : Char) (hc : unescape? c = some c') (rest : Text) :
    readUnits ('\\' :: c :: rest) = (readUnits rest).map fun p => (c'.toNat :: p.1, p.2) := by
  have hu : c ≠ 'u' := by
    rintro rfl
    cases hc
  rw [readUnits, hc]
  exact fun _ _ _ _ _ h => absurd h hu

theorem readUnits_hex (n : Nat) (hn : n < 65536) (rest : Text) :
    readUnits ("\\u".toList ++ Text.hex 4 n ++ rest) = (readUnits rest).map fun p => (n :: p.1, p.2) := by
  obtain ⟨a, b, c, d, habcd, hunit⟩ := codeUnit?_hex n hn
  rw [habcd]
  change readUnits ('\\' :: 'u' :: a :: b :: c :: d :: rest) = _
  rw [readUnits, hunit]

theorem readUnits_plain (c : Char) (hquote : c ≠ '"') (hescape : c ≠ '\\') (hprintable : ¬c.toNat < 0x20)
    (rest : Text) : readUnits (c :: rest) = (readUnits rest).map fun p => (c.toNat :: p.1, p.2) := by
  rw [readUnits, if_neg hprintable]
  · exact hquote
  · exact fun _ _ _ _ _ h => absurd h hescape
  · exact fun _ _ h => absurd h hescape

/-- Whatever way a character is written, it is read as its code unit. -/
theorem readUnits_escapeChar (c : Char) (rest : Text) :
    readUnits (escapeChar c ++ rest) = (readUnits rest).map fun p => (c.toNat :: p.1, p.2) := by
  unfold escapeChar
  split
  · rename_i hc
    obtain rfl | rfl := hc <;> exact readUnits_unescape _ _ rfl rest
  split
  · subst c
    exact readUnits_unescape 'n' _ rfl rest
  split
  · subst c
    exact readUnits_unescape 'r' _ rfl rest
  split
  · subst c
    exact readUnits_unescape 't' _ rfl rest
  split
  · subst c
    exact readUnits_unescape 'b' _ rfl rest
  split
  · subst c
    exact readUnits_unescape 'f' _ rfl rest
  split
  · rename_i hcontrol
    exact readUnits_hex c.toNat (by omega) rest
  · rename_i hc _ _ _ _ _ hprintable
    exact readUnits_plain c (fun h => hc (.inl h)) (fun h => hc (.inr h)) hprintable rest

@[simp] theorem readUnits_flatMap (t rest : Text) :
    readUnits (t.flatMap escapeChar ++ '"' :: rest) = .ok (t.map Char.toNat, rest) := by
  induction t with
  | nil => rfl
  | cons c t ih =>
    rw [List.flatMap_cons, List.append_assoc, readUnits_escapeChar, ih]
    rfl

theorem isHighUnit_toNat (c : Char) : isHighUnit c.toNat = false ∧ isLowUnit c.toNat = false := by
  have hvalid : c.toNat < 0xd800 ∨ 0xdfff < c.toNat ∧ c.toNat < 0x110000 := c.valid
  simp only [isHighUnit, isLowUnit, Bool.and_eq_false_iff, decide_eq_false_iff_not]
  omega

theorem charOfUnit?_toNat (c : Char) : charOfUnit? c.toNat = some c := by
  obtain ⟨hhigh, hlow⟩ := isHighUnit_toNat c
  rw [charOfUnit?, hhigh, hlow]
  exact congrArg some (Char.ofNat_toNat c)

@[simp] theorem joinUnits?_map_toNat (t : Text) : joinUnits? (t.map Char.toNat) = some t := by
  induction t with
  | nil => rfl
  | cons c t ih =>
    cases t with
    | nil => exact congrArg (Option.map ([·])) (charOfUnit?_toNat c)
    | cons c' t =>
      rw [List.map_cons, List.map_cons, joinUnits?, (isHighUnit_toNat c).1, Bool.false_and, if_neg Bool.false_ne_true,
        charOfUnit?_toNat]
      exact congrArg (Option.map (c :: ·)) ih

theorem writeText_append (t rest : Text) : writeText t ++ rest = '"' :: (t.flatMap escapeChar ++ '"' :: rest) := by
  simp [writeText]

/-- A written text, the opening quote read, is read up to its closing quote. -/
@[simp] theorem readText_written (t rest : Text) : readText (t.flatMap escapeChar ++ '"' :: rest) = .ok (t, rest) := by
  rw [readText, readUnits_flatMap]
  dsimp only
  rw [joinUnits?_map_toNat]

/-- Nothing at the front that a whole number could go on with. -/
def EndsNumber (rest : Text) : Prop := ∀ c ∈ rest.head?, c.isDigit = false ∧ c ≠ '.' ∧ c ≠ 'e' ∧ c ≠ 'E'

theorem endsNumber_nil : EndsNumber [] := nofun

theorem endsNumber_cons {c : Char} {rest : Text} (h : c.isDigit = false ∧ c ≠ '.' ∧ c ≠ 'e' ∧ c ≠ 'E') :
    EndsNumber (c :: rest) := by
  rintro _ ⟨⟩
  exact h

theorem spanDigits_append {digits rest : Text} (hdigits : ∀ c ∈ digits, c.isDigit = true) (hrest : EndsNumber rest) :
    spanDigits (digits ++ rest) = (digits, rest) := by
  obtain ⟨htake, hdrop⟩ := Text.takeWhile_dropWhile_append Char.isDigit digits rest hdigits fun c hc => (hrest c hc).1
  rw [spanDigits, List.span_eq_takeWhile_dropWhile, htake, hdrop]

@[simp] theorem digitsValue_ofNat (n : Nat) : digitsValue (Text.ofNat n) = n := by
  have h := Nat.ofDigitChars_ten_toDigits (n := n)
  rw [Nat.ofDigitChars_eq_foldl] at h
  exact h

theorem readWhole?_ofNat (n : Nat) {rest : Text} (hrest : EndsNumber rest) :
    readWhole? (Text.ofNat n ++ rest) = some (Text.ofNat n, rest) := by
  obtain rfl | hn := eq_or_ne n 0
  · rfl
  have hspan := spanDigits_append (Text.isDigit_of_mem_ofNat n) hrest
  have hhead := Text.head?_ofNat_ne_zero n hn
  obtain ⟨c, digits, hdigits, -⟩ := Text.exists_cons_ofNat n
  rw [hdigits] at hspan hhead ⊢
  rw [List.cons_append] at hspan ⊢
  rw [readWhole?, hspan]
  exact fun _ h => hhead (congrArg some (List.cons.inj h).1)

theorem readFraction_eq {rest : Text} (hrest : EndsNumber rest) : readFraction rest = ([], rest) := by
  cases rest with
  | nil => rfl
  | cons c rest =>
    rw [readFraction]
    exact fun _ h => (hrest c rfl).2.1 (List.cons.inj h).1

theorem readExponent_eq {rest : Text} (hrest : EndsNumber rest) : readExponent rest = (none, rest) := by
  cases rest with
  | nil => rfl
  | cons c rest =>
    obtain ⟨-, -, he, hE⟩ := hrest c rfl
    rw [readExponent, if_neg (not_or.2 ⟨he, hE⟩)]

theorem readMagnitude_ofNat (negative : Bool) (n : Nat) {rest : Text} (hrest : EndsNumber rest) :
    readMagnitude negative (Text.ofNat n ++ rest) =
      if Text.maxDigits < (Text.ofNat n).length then .error (.tooManyDigits (Text.ofNat n).length)
      else .ok (int (Binary64.signed negative n), rest) := by
  rw [readMagnitude, readWhole?_ofNat n hrest]
  dsimp only
  rw [readFraction_eq hrest]
  dsimp only
  rw [readExponent_eq hrest, digitsValue_ofNat]
  rfl

theorem readNumber_ofInt (n : Int) {rest : Text} (hrest : EndsNumber rest) :
    readNumber (Text.ofInt n ++ rest) =
      if Text.maxDigits < (Text.ofNat n.natAbs).length then .error (.tooManyDigits (Text.ofNat n.natAbs).length)
      else .ok (int n, rest) := by
  cases n with
  | ofNat n =>
    obtain ⟨c, digits, h, hc⟩ := Text.exists_cons_ofNat n
    have hunsigned : readNumber (Text.ofNat n ++ rest) = readMagnitude false (Text.ofNat n ++ rest) := by
      rw [h, List.cons_append, readNumber]
      rintro _ ⟨⟩
      cases hc
    exact hunsigned.trans (readMagnitude_ofNat false n hrest)
  | negSucc n => exact readMagnitude_ofNat true (n + 1) hrest

theorem readConstant?_of_isDigit {c : Char} (hc : c.isDigit = true) (t : Text) :
    readConstant? (c :: t) = none ∧ readConstant? ('-' :: c :: t) = none := by
  have hne : ∀ c' : Char, c'.isDigit = false → ¬c' = c := by
    rintro _ hc' rfl
    rw [hc] at hc'
    cases hc'
  simp [readConstant?, constants, Text.afterPrefix?, hne]

@[simp] theorem readConstant?_ofInt (n : Int) (rest : Text) : readConstant? (Text.ofInt n ++ rest) = none := by
  obtain ⟨c, digits, hc, h | h⟩ := Text.exists_cons_ofInt n
  · rw [h]
    exact (readConstant?_of_isDigit hc _).1
  · rw [h]
    exact (readConstant?_of_isDigit hc _).2

end DeskScript.Json
