import ChatLobby.Proofs.Numerals
import ChatLobby.Settings.Scan
import ChatLobby.Text.Quoted

/-!
# Quoted texts, read back

The settings file writes texts in quotation marks.  A quotation mark, a backslash, a line break and
whatever has no visible form of its own is escaped, and each escape stands for one character.

* `Settings.escapeChar_cases`: a character is written as itself, or as an escape that stands for it.
* `Settings.text?_quoted`: what is written for a text is read as that text, whatever stands behind
  it.
-/

namespace ChatLobby

open Text

namespace Text

/-! ## Escapes -/

/-- There is a character for the code point of a character. -/
theorem charOfCode?_toNat (c : Char) : charOfCode? c.toNat = some c := by
  have hvalid : c.toNat.isValidChar := c.valid
  rw [charOfCode?, dif_pos hvalid]
  rfl

/-- A code point takes no more than six hexadecimal digits. -/
theorem length_hexDigits_le (c : Char) : (hexDigits c.toNat).length ≤ 6 := by
  have hlt : c.toNat < 16 ^ 6 := by
    rcases c.valid with hlow | ⟨-, hhigh⟩
    · exact Nat.lt_trans hlow (by decide)
    · exact Nat.lt_trans hhigh (by decide)
  exact (Nat.length_toDigits_le_iff (by decide) (by decide)).mpr hlt

end Text

namespace Settings

variable {cs rest : List Char} {high n count fuel : Nat} {c : Char} {place : EscapePlace}

/-- Digits are read up to the first character that is none, if there are not too many. -/
theorem hexRun_append (hvalue : digitsValue? 16 high cs = some n) (hcount : cs.length ≤ count)
    (hstop : digitValue? 16 c = none) :
    hexRun count high (cs ++ c :: rest) = (n, c :: rest) := by
  induction cs generalizing high count with
  | nil =>
    cases hvalue
    cases count with
    | zero => rfl
    | succ count => rw [List.nil_append, hexRun, hstop]
  | cons a cs ih =>
    obtain ⟨d, hd, hvalue⟩ := Option.bind_eq_some_iff.mp hvalue
    cases count with
    | zero => simp at hcount
    | succ count =>
      rw [List.cons_append, hexRun, hd]
      dsimp only
      rw [Nat.mul_comm]
      exact ih hvalue (Nat.le_of_succ_le_succ hcount)

/-- An escape by code point gives the character. -/
theorem escape?_hexDigits (c : Char) (rest : List Char) :
    escape? place ('u' :: '\x7b' :: (hexDigits c.toNat ++ '\x7d' :: rest)) = some (c, rest) := by
  have hnumeral : Numeral 16 (hexDigits c.toNat) c.toNat := numeral_toDigits (by decide) (by decide) _
  have hvalue : digitsValue? 16 0 (hexDigits c.toNat) = some c.toNat := by
    have hread := numeral?_eq_some_iff.mpr hnumeral
    rwa [numeral?, if_neg (by simpa using hnumeral.ne_nil)] at hread
  have hrun : hexRun 6 0 (hexDigits c.toNat ++ '\x7d' :: rest) = (c.toNat, '\x7d' :: rest) :=
    hexRun_append hvalue (length_hexDigits_le c) (by decide)
  have hpos := List.length_pos_iff.mpr hnumeral.ne_nil
  have hdigits : (hexDigits c.toNat ++ '\x7d' :: rest).length ≠ ('\x7d' :: rest).length := by
    rw [List.length_append]
    omega
  simp only [escape?, hrun]
  rw [if_neg hdigits, charOfCode?_toNat]
  rfl

/-- **A character is written as itself**, unless that would end the text or begin an escape, or as
an escape that is read as the character. -/
theorem escapeChar_cases (c : Char) :
    (escapeChar .file c = [c] ∧ c ≠ '"' ∧ c ≠ '\\') ∨
      ∃ mark cs, escapeChar .file c = '\\' :: mark :: cs ∧ mark ≠ '\n' ∧ mark ≠ '\r' ∧
        ∀ rest, escape? .text (mark :: (cs ++ rest)) = some (c, rest) := by
  -- -- the seven characters with an escape of their own, and then those that are visible or not
  by_cases hmarked : c ∈ ['\x00', '\t', '\r', '\n', '\\', '"', '\'']
  · simp only [List.mem_cons, List.not_mem_nil, or_false] at hmarked
    right
    rcases hmarked with rfl | rfl | rfl | rfl | rfl | rfl | rfl
    all_goals exact ⟨_, [], rfl, by decide, by decide, fun _ => rfl⟩
  · have hcode : ∃ mark cs, unicodeEscape c = '\\' :: mark :: cs ∧ mark ≠ '\n' ∧ mark ≠ '\r' ∧
        ∀ rest, escape? .text (mark :: (cs ++ rest)) = some (c, rest) := by
      refine ⟨'u', '\x7b' :: (hexDigits c.toNat ++ ['\x7d']), rfl, by decide, by decide, ?_⟩
      intro rest
      simpa using escape?_hexDigits c rest
    simp only [List.mem_cons, List.not_mem_nil, or_false, not_or] at hmarked
    simp only [escapeChar, hmarked, beq_iff_eq, Bool.or_eq_true, Bool.and_eq_true, or_self,
      false_and, if_false]
    split
    · exact .inr hcode
    · split
      · exact .inl ⟨rfl, hmarked.2.2.2.2.2.1, hmarked.2.2.2.2.1⟩
      · exact .inr hcode

/-! ## Texts

The reader is given as much fuel as there are characters to read, and takes one for each character
of the text, however many characters that is written with. -/

/-- An escape gives one character. -/
theorem textBody_escape {mark : Char} (hn : mark ≠ '\n') (hr : mark ≠ '\r')
    (hescape : escape? place (mark :: cs) = some (c, rest)) :
    textBody place (fuel + 1) ('\\' :: mark :: cs) =
      (textBody place fuel rest).map fun (body, rest) => (c :: body, rest) := by
  rw [textBody, hescape]
  all_goals simp_all

theorem textBody_cons (hquote : c ≠ '"') (hescape : c ≠ '\\') :
    textBody place (fuel + 1) (c :: cs) =
      (textBody place fuel cs).map fun (body, rest) => (c :: body, rest) := by
  rw [textBody]
  all_goals simp_all

/-- What is written for a character is read as that character. -/
theorem textBody_escapeChar (c : Char) (rest : List Char) :
    textBody .text (fuel + 1) (escapeChar .file c ++ rest) =
      (textBody .text fuel rest).map fun (body, rest) => (c :: body, rest) := by
  obtain ⟨hself, hquote, hslash⟩ | ⟨mark, cs, hescape, hn, hr, hread⟩ := escapeChar_cases c
  · rw [hself]
    exact textBody_cons hquote hslash
  · rw [hescape]
    exact textBody_escape hn hr (hread rest)

/-- Characters are read one after the other, up to the quotation mark that none of them is. -/
theorem textBody_flatMap (hfuel : cs.length < fuel) :
    textBody .text fuel (cs.flatMap (escapeChar .file) ++ '"' :: rest) = .ok (cs, rest) := by
  induction cs generalizing fuel with
  | nil =>
    cases fuel with
    | zero => simp at hfuel
    | succ fuel => rfl
  | cons c cs ih =>
    cases fuel with
    | zero => simp at hfuel
    | succ fuel =>
      rw [List.flatMap_cons, List.append_assoc, textBody_escapeChar,
        ih (Nat.lt_of_succ_lt_succ hfuel)]
      rfl

/-- Nothing is written with less than one character. -/
theorem length_le_length_flatMap (cs : List Char) :
    cs.length ≤ (cs.flatMap (escapeChar .file)).length := by
  induction cs with
  | nil => exact Nat.le_refl 0
  | cons c cs ih =>
    have hpos : 0 < (escapeChar .file c).length := by
      obtain ⟨hself, -⟩ | ⟨mark, cs, hescape, -⟩ := escapeChar_cases c
      · simp [hself]
      · simp [hescape]
    rw [List.flatMap_cons, List.length_append, List.length_cons]
    omega

/-- **What is written for a text is read as that text**, whatever stands behind it. -/
theorem text?_quoted (s : String) (rest : List Char) :
    text? ((quoted .file s).toList ++ rest) = some (s, rest) := by
  have hwritten : (quoted .file s).toList ++ rest =
      '"' :: (s.toList.flatMap (escapeChar .file) ++ '"' :: rest) := by
    simp [quoted]
  have hfuel : s.toList.length <
      (s.toList.flatMap (escapeChar .file) ++ '"' :: rest).length + 1 := by
    have := length_le_length_flatMap s.toList
    rw [List.length_append]
    omega
  rw [text?, hwritten, text, textBody_flatMap hfuel]
  simp [Except.toOption]

end Settings

end ChatLobby
