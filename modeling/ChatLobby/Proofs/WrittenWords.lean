import ChatLobby.Proofs.QuotedTexts
import Mathlib.Data.Bool.AllAny

/-!
# Words of the settings file, read back

The settings file is written with names of lower-case letters, decimal numbers, and line breaks and
spaces between them.

* `Text.beginsName_of_isAscii`, `Text.continuesName_of_isAscii`: which of the first characters of
  all may stand in names.
* `Settings.word?_append`, `Settings.name?_append`: a name is read up to the character behind it.
* `Settings.numberOrRange?_integerChars`: a number is read up to the comma behind it.
-/

namespace ChatLobby

open Text

variable {cs rest name spaces : List Char} {c : Char} {n : Nat}

/-! ## Characters of names

The characters that may stand in names are those of the Unicode tables, which are kept as bounds.
For ASCII only the first few bounds count, so that the rest of the tables never has to be computed
with. -/

namespace Text

/-- Bounds above a character do not count for it. -/
theorem CharSet.contains_eq_of_lt {s : CharSet} {size : Nat}
    (h : ∀ bound ∈ s.bounds.toList.drop size, c.toNat < bound) :
    s.contains c = ((s.bounds.toList.take size).countP (· ≤ c.toNat) % 2 == 1) := by
  have hnone : (s.bounds.toList.drop size).countP (· ≤ c.toNat) = 0 := by
    rw [List.countP_eq_zero]
    intro bound hbound
    simpa using h bound hbound
  rw [contains, ← Array.countP_toList, ← List.take_append_drop size s.bounds.toList,
    List.countP_append, hnone, List.take_append_drop, Nat.add_zero]

/-- What holds of 128 characters holds of all in ASCII. -/
theorem forall_isAscii {p : Char → Prop} (hp : ∀ n < 128, p (Char.ofNat n)) :
    ∀ c : Char, c.toNat < 128 → p c := by
  intro c h
  have hc := hp c.toNat h
  rwa [Char.ofNat_toNat] at hc

/-- In ASCII, letters begin names, and the underscore. -/
theorem beginsName_of_isAscii (h : c.toNat < 128) : beginsName c = (c == '_' || c.isAlpha) := by
  have hhigh : ∀ bound ∈ identifierStart.bounds.toList.drop 4, 128 ≤ bound := by decide +kernel
  have hletters : ∀ c : Char, c.toNat < 128 →
      ([0x41, 0x5B, 0x61, 0x7B].countP (· ≤ c.toNat) % 2 == 1) = c.isAlpha :=
    forall_isAscii (by decide +kernel)
  rw [beginsName, ← hletters c h,
    CharSet.contains_eq_of_lt fun bound hbound => Nat.lt_of_lt_of_le h (hhigh bound hbound)]
  rfl

/-- Letters continue names as well, and so do digits and the underscore. -/
theorem continuesName_of_isAscii (h : c.toNat < 128) :
    continuesName c = (c == '_' || c.isAlphanum) := by
  have hhigh : ∀ bound ∈ identifierContinue.bounds.toList.drop 8, 128 ≤ bound := by
    decide +kernel
  have hwords : ∀ c : Char, c.toNat < 128 →
      ([0x30, 0x3A, 0x41, 0x5B, 0x5F, 0x60, 0x61, 0x7B].countP (· ≤ c.toNat) % 2 == 1) =
        (c == '_' || c.isAlphanum) :=
    forall_isAscii (by decide +kernel)
  rw [continuesName, ← hwords c h,
    CharSet.contains_eq_of_lt fun bound hbound => Nat.lt_of_lt_of_le h (hhigh bound hbound)]
  rfl

/-- Whether the characters are a name as settings have them: lower-case letters, with underscores
between them. -/
def isPlainName (cs : List Char) : Bool :=
  cs.head?.any Char.isLower && cs.all fun c => c.isLower || c == '_'

theorem isAscii_of_isLower (h : c.isLower = true) : c.toNat < 128 := by
  have h : (decide ('a'.val ≤ c.val) && decide (c.val ≤ 'z'.val)) = true := h
  rw [Bool.and_eq_true, decide_eq_true_eq, decide_eq_true_eq] at h
  exact Nat.lt_of_le_of_lt h.2 (by decide)

theorem beginsName_of_isLower (h : c.isLower = true) : beginsName c = true := by
  have hletter : c.isAlpha = (c.isUpper || c.isLower) := rfl
  rw [beginsName_of_isAscii (isAscii_of_isLower h), hletter, h, Bool.or_true, Bool.or_true]

theorem continuesName_of_isLower (h : c.isLower = true) : continuesName c = true := by
  have hword : c.isAlphanum = ((c.isUpper || c.isLower) || c.isDigit) := rfl
  rw [continuesName_of_isAscii (isAscii_of_isLower h), hword, h, Bool.or_true, Bool.true_or,
    Bool.or_true]

theorem continuesName_colon : continuesName ':' = false := by
  rw [continuesName_of_isAscii (by decide)]
  rfl

theorem continuesName_comma : continuesName ',' = false := by
  rw [continuesName_of_isAscii (by decide)]
  rfl

theorem continuesName_of_mem (h : isPlainName name = true) (hc : c ∈ name) :
    continuesName c = true := by
  rw [isPlainName, Bool.and_eq_true, List.all_eq_true] at h
  have hc := h.2 c hc
  rw [Bool.or_eq_true] at hc
  rcases hc with hlower | hunderscore
  · exact continuesName_of_isLower hlower
  · rw [eq_of_beq hunderscore, continuesName_of_isAscii (by decide)]
    rfl

end Text

namespace Settings

/-! ## Space -/

theorem skipSpace_cons (h : c ≠ '/') :
    skipSpace (c :: cs) = if isSpace c then skipSpace cs else some (c :: cs) := by
  rw [skipSpace, skipFrom]
  · rfl
  all_goals simp_all

theorem skipSpace_of_isSpace (h : isSpace c = true) : skipSpace (c :: cs) = skipSpace cs := by
  have hslash : c ≠ '/' := by
    rintro rfl
    exact absurd h (by decide)
  rw [skipSpace_cons hslash, if_pos h]

theorem skipSpace_append (h : ∀ c ∈ spaces, isSpace c = true) (cs : List Char) :
    skipSpace (spaces ++ cs) = skipSpace cs := by
  induction spaces with
  | nil => rfl
  | cons c spaces ih =>
    rw [List.cons_append, skipSpace_of_isSpace (h c List.mem_cons_self)]
    exact ih fun c hc => h c (List.mem_cons_of_mem _ hc)

/-! ## Names

A word is not read as a name if it opens a literal or a raw name, since those begin with letters as
well.  All of them go on with a mark that is in no name of the settings. -/

/-- The characters of literals that belong to no name. -/
def literalMarks : List Char := ['"', '\'', '#']

/-- In the opening of a literal there is a mark, and nothing but marks and letters. -/
theorem mem_literalMarks {opening : String} (h : opening ∈ literalOpenings) :
    (∃ mark ∈ opening.toList, mark ∈ literalMarks) ∧
      ∀ c ∈ opening.toList, c ∈ literalMarks ∨ c.isLower = true := by
  have hopenings : ∀ opening ∈ literalOpenings,
      (opening.toList.any fun mark => mark ∈ literalMarks) = true ∧
        (opening.toList.all fun c => c ∈ literalMarks ∨ c.isLower = true) = true := by
    decide +kernel
  obtain ⟨hmark, hletters⟩ := hopenings opening h
  exact ⟨List.any_iff_exists_prop.mp hmark, List.all_iff_forall_prop.mp hletters⟩

/-- No mark belongs to a name. -/
theorem continuesName_of_mem_literalMarks (h : c ∈ literalMarks) : continuesName c = false := by
  have hmarks : ∀ c ∈ literalMarks, c.toNat < 128 ∧ (c == '_' || c.isAlphanum) = false :=
    List.all_iff_forall_prop.mp (by decide)
  rw [continuesName_of_isAscii (hmarks c h).1]
  exact (hmarks c h).2

/-- A name opens no literal: there would be one of the marks in it. -/
theorem opensLiteral_append (hname : isPlainName name = true) (hstop : continuesName c = false)
    (hmark : c ∉ literalMarks) (rest : List Char) : opensLiteral (name ++ c :: rest) = false := by
  rw [opensLiteral, List.any_eq_false]
  intro opening hopening hprefix
  obtain ⟨⟨mark, hmem, hliteral⟩, hletters⟩ := mem_literalMarks hopening
  have hnotMem : mark ∉ name := by
    intro hmem
    have hcontinues := continuesName_of_mem hname hmem
    rw [continuesName_of_mem_literalMarks hliteral] at hcontinues
    cases hcontinues
  obtain ⟨after, happend⟩ := List.isPrefixOf_iff_prefix.mp hprefix
  -- -- the opening lies within the name, or goes on with what stands behind it
  obtain ⟨between, rfl, -⟩ | ⟨between, hopen, hbetween⟩ := List.append_eq_append_iff.mp happend
  · exact hnotMem (List.mem_append_left _ hmem)
  · cases between with
    | nil =>
      rw [List.append_nil] at hopen
      exact hnotMem (hopen ▸ hmem)
    | cons b between =>
      obtain ⟨rfl, -⟩ := List.cons.inj hbetween
      rcases hletters c (by rw [hopen]; simp) with hliteral | hlower
      · exact hmark hliteral
      · rw [continuesName_of_isLower hlower] at hstop
        cases hstop

/-- Nor does it open a raw name. -/
theorem append_ne_raw (hname : isPlainName name = true) (hmark : c ∉ literalMarks)
    (rest tail : List Char) : name ++ c :: rest ≠ 'r' :: '#' :: tail := by
  intro h
  have hhash : '#' ∈ literalMarks := by decide
  match name with
  | [] => simp [isPlainName] at hname
  | [_] =>
    obtain ⟨-, h⟩ := List.cons.inj h
    obtain ⟨rfl, -⟩ := List.cons.inj h
    exact hmark hhash
  | _ :: d :: _ =>
    obtain ⟨-, h⟩ := List.cons.inj h
    obtain ⟨rfl, -⟩ := List.cons.inj h
    have hcontinues := continuesName_of_mem hname (by simp : '#' ∈ _ :: '#' :: _)
    rw [continuesName_of_mem_literalMarks hhash] at hcontinues
    cases hcontinues

theorem word?_cons (hraw : ∀ tail, c :: cs ≠ 'r' :: '#' :: tail) :
    word? (c :: cs) =
      if opensLiteral (c :: cs) then none
      else if beginsName c then
        some (String.ofList (c :: cs.takeWhile continuesName), cs.dropWhile continuesName)
      else none := by
  rw [word?]
  rintro tail rfl rfl
  exact hraw tail rfl

/-- **A name is read as far as it goes.** -/
theorem word?_append (hname : isPlainName name = true) (hstop : continuesName c = false)
    (hmark : c ∉ literalMarks) :
    word? (name ++ c :: rest) = some (String.ofList name, c :: rest) := by
  have hraw := append_ne_raw hname hmark rest
  have hliteral := opensLiteral_append hname hstop hmark rest
  cases name with
  | nil => simp [isPlainName] at hname
  | cons a name =>
    have hbegins : beginsName a = true := by
      rw [isPlainName, Bool.and_eq_true] at hname
      exact beginsName_of_isLower hname.1
    have hcontinues : ∀ d ∈ name, continuesName d = true := fun d hd =>
      continuesName_of_mem hname (List.mem_cons_of_mem _ hd)
    have htake : (name ++ c :: rest).takeWhile continuesName = name := by
      simp [List.takeWhile_append_of_pos hcontinues, hstop]
    have hdrop : (name ++ c :: rest).dropWhile continuesName = c :: rest := by
      simp [List.dropWhile_append_of_pos hcontinues, hstop]
    rw [List.cons_append] at hraw hliteral ⊢
    rw [word?_cons hraw, hliteral, if_neg Bool.false_ne_true, if_pos hbegins, htake, hdrop]

/-- A name is read before a colon. -/
theorem name?_append (hname : isPlainName name = true) (rest : List Char) :
    name? (name ++ ':' :: rest) = some (String.ofList name, ':' :: rest) := by
  have hraw : isRawNameChar ':' = false := by
    rw [isRawNameChar, continuesName_colon]
    rfl
  have hkeep : (!(':' :: rest).head?.any isRawNameChar) = true := by
    rw [List.head?_cons, Option.any_some, hraw]
    rfl
  rw [name?, word?_append hname continuesName_colon (by decide)]
  · exact Option.filter_eq_some_iff.mpr ⟨rfl, hkeep⟩
  · exact append_ne_raw hname (by decide) rest

/-- What begins no name is no word. -/
theorem word?_eq_none (h : beginsName c = false) : word? (c :: cs) = none := by
  have hr : beginsName 'r' = true := beginsName_of_isLower (by decide)
  have hraw : ∀ tail, c :: cs ≠ 'r' :: '#' :: tail := by
    intro tail heq
    rw [(List.cons.inj heq).1, hr] at h
    cases h
  rw [word?_cons hraw, h, if_neg Bool.false_ne_true, ite_self]

/-! ## Tokens -/

/-- A token is not where another character stands than its first. -/
theorem dropToken?_eq_none {token : String} (h : (token.toList.head?.any (· != c)) = true) :
    dropToken? token (c :: cs) = none := by
  rw [dropToken?]
  cases htoken : token.toList with
  | nil => simp [htoken] at h
  | cons a more =>
    have hne : (a == c) = false := by simpa [htoken] using h
    simp [List.isPrefixOf, hne]

/-! ## Numbers

The reader of numbers accepts signs, other radices, underscores, suffixes and fractions.  None of
that is ever written, so it has to be shown at each of these branches that a decimal number with a
comma behind it does not take it. -/

/-- An integer as it is written. -/
def integerChars (negative : Bool) (n : Nat) : List Char :=
  if negative then '-' :: decimal n else decimal n

/-- The characters that an integer can begin with. -/
def integerHeads : List Char := ['-', '0', '1', '2', '3', '4', '5', '6', '7', '8', '9']

theorem exists_head_integerChars (negative : Bool) (n : Nat) :
    ∃ c cs, integerChars negative n = c :: cs ∧ c ∈ integerHeads := by
  cases negative with
  | true => exact ⟨'-', decimal n, rfl, by decide⟩
  | false =>
    have hdigits : ∀ c ∈ decimal n, c ∈ integerHeads := forall_mem_decimal (by decide)
    cases hn : decimal n with
    | nil => exact absurd hn (decimal_ne_nil n)
    | cons c cs => exact ⟨c, cs, hn, hdigits c (by simp [hn])⟩

theorem takeSign_integerChars (negative : Bool) (n : Nat) (rest : List Char) :
    takeSign (integerChars negative n ++ rest) = (negative, decimal n ++ rest) := by
  cases negative with
  | true => rfl
  | false =>
    have hunsigned : ∀ c ∈ decimal n, c ≠ '+' ∧ c ≠ '-' := forall_mem_decimal (by decide)
    rw [integerChars, if_neg Bool.false_ne_true]
    cases hn : decimal n with
    | nil => exact absurd hn (decimal_ne_nil n)
    | cons c cs =>
      obtain ⟨hplus, hminus⟩ := hunsigned c (by simp [hn])
      rw [List.cons_append, takeSign]
      · exact fun _ heq => hplus (List.cons.inj heq).1
      · exact fun _ heq => hminus (List.cons.inj heq).1

theorem takeWhile_isIntegerChar (n : Nat) (rest : List Char) :
    (decimal n ++ ',' :: rest).takeWhile isIntegerChar = decimal n := by
  have hdigits : ∀ c ∈ decimal n, isIntegerChar c = true := forall_mem_decimal (by decide)
  have hcomma : isIntegerChar ',' = false := by decide
  simp [List.takeWhile_append_of_pos hdigits, hcomma]

theorem dropWhile_isIntegerChar (n : Nat) (rest : List Char) :
    (decimal n ++ ',' :: rest).dropWhile isIntegerChar = ',' :: rest := by
  have hdigits : ∀ c ∈ decimal n, isIntegerChar c = true := forall_mem_decimal (by decide)
  have hcomma : isIntegerChar ',' = false := by decide
  simp [List.dropWhile_append_of_pos hdigits, hcomma]

/-- A run without a dot goes up to the comma as well. -/
theorem floatRun_append (h : ∀ c ∈ cs, isFloatChar c = true ∧ c ≠ '.') (rest : List Char) :
    floatRun (cs ++ ',' :: rest) = cs := by
  induction cs with
  | nil => rfl
  | cons c cs ih =>
    obtain ⟨hfloat, hdot⟩ := h c List.mem_cons_self
    rw [List.cons_append, floatRun, if_pos hfloat, ih fun d hd => h d (List.mem_cons_of_mem _ hd)]
    exact fun _ heq _ => hdot heq

/-- So an integer is not taken for a fraction. -/
theorem looksLikeFloat_integerChars (negative : Bool) (n : Nat) (rest : List Char) :
    looksLikeFloat (integerChars negative n ++ ',' :: rest) = false := by
  have hdigits : ∀ c ∈ decimal n, isFloatChar c = true ∧ c ≠ '.' := forall_mem_decimal (by decide)
  rw [looksLikeFloat, takeSign_integerChars]
  dsimp only
  rw [takeWhile_isIntegerChar, floatRun_append hdigits]
  simp

/-- No number but zero has a zero in front. -/
theorem decimal_append_ne {mark : Char} (hmark : mark ≠ ',') (n : Nat) (rest digits : List Char) :
    decimal n ++ ',' :: rest ≠ '0' :: mark :: digits := by
  intro h
  cases hn : decimal n with
  | nil => exact absurd hn (decimal_ne_nil n)
  | cons a more =>
    rw [hn, List.cons_append] at h
    obtain ⟨rfl, hmore⟩ := List.cons.inj h
    obtain rfl := eq_zero_of_head?_decimal (by rw [hn, List.head?_cons])
    obtain rfl : more = [] := (List.cons.inj hn).2.symm
    exact hmark (List.cons.inj hmore).1.symm

/-- So none announces another radix. -/
theorem takeRadix_decimal (n : Nat) (rest : List Char) :
    takeRadix (decimal n ++ ',' :: rest) = (10, decimal n ++ ',' :: rest) := by
  rw [takeRadix]
  all_goals exact fun digits => decimal_append_ne (by decide) n rest digits

theorem magnitude?_decimal (n : Nat) (rest : List Char) :
    magnitude? (decimal n ++ ',' :: rest) = some ((10, n), ',' :: rest) := by
  have hplain : ∀ c ∈ decimal n, (c != '_') = true := forall_mem_decimal (by decide)
  have hhead : (decimal n).head? ≠ some '_' := by
    intro h
    exact absurd (hplain _ (List.mem_of_head? h)) (by decide)
  rw [magnitude?, takeRadix_decimal]
  dsimp only
  rw [takeWhile_isIntegerChar, if_neg hhead, List.filter_eq_self.mpr hplain, numeral?_decimal,
    Option.map_some, List.drop_left]

theorem integerSuffix?_comma (rest : List Char) : integerSuffix? (',' :: rest) = none := by
  have hfirst : ∀ entry ∈ integerTypes, (entry.1.toList.head?.any (· != ',')) = true := by
    decide +kernel
  rw [integerSuffix?, List.findSome?_eq_none_iff]
  rintro ⟨suffix, type⟩ hentry
  dsimp only
  rw [dropWord?, dropToken?_eq_none (hfirst _ hentry)]
  rfl

theorem integer?_integerChars (negative : Bool) (n : Nat) (rest : List Char) :
    integer? (integerChars negative n ++ ',' :: rest) =
      some ((10, ⟨negative, n, none⟩), ',' :: rest) := by
  rw [integer?, takeSign_integerChars]
  dsimp only
  rw [takeRadix_decimal, dropWhile_isIntegerChar, integerSuffix?_comma, magnitude?_decimal]
  rfl

/-- **A number is read up to the comma behind it**, unless it is too large for any type. -/
theorem numberOrRange?_integerChars {negative : Bool}
    (hholds : (widestType negative).holds negative n = true) (rest : List Char) :
    numberOrRange? (integerChars negative n ++ ',' :: rest) =
      some (.integer ⟨negative, n, none⟩, ',' :: rest) := by
  have hnumber : number? (integerChars negative n ++ ',' :: rest) =
      some (.integer ⟨negative, n, none⟩, ',' :: rest) := by
    rw [number?, looksLikeFloat_integerChars, if_neg Bool.false_ne_true, integer?_integerChars]
    dsimp only
    rw [if_pos hholds]
  -- -- nor is it a byte literal or the beginning of a range
  have hbyte : ∀ tail, integerChars negative n ++ ',' :: rest ≠ 'b' :: '\'' :: tail := by
    obtain ⟨c, cs, hchars, hc⟩ := exists_head_integerChars negative n
    rintro tail heq
    rw [hchars] at heq
    rw [(List.cons.inj heq).1] at hc
    exact absurd hc (by decide)
  have hrange : dropToken? ".." (',' :: rest) = none := dropToken?_eq_none (by decide +kernel)
  rw [numberOrRange?, bound?, hnumber]
  · dsimp only
    rw [hrange, Option.isSome_none, if_neg Bool.false_ne_true]
  · exact hbyte

end Settings

end ChatLobby
