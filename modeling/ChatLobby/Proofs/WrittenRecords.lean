import ChatLobby.Proofs.WrittenWords
import ChatLobby.Settings.Document
import ChatLobby.Settings.Written
import Mathlib.Data.List.Forall2

/-!
# Records of the settings file, read back

The settings file is a record with a field a line, and its fields are such records again.  Whatever
the fields are written as: if each of them is read up to the comma behind it, the record is read.

* `Settings.Reads`: what is written is read as what it stands for.
* `Settings.items?_lines`: items a line are read one after the other.
* `Settings.value?_record`: a record is read as its fields, if the nesting limit allows for two
  levels more than they need.
-/

namespace ChatLobby.Settings

open Text

variable {α : Type} {ext : Extensions} {c : Char} {cs written rest indent closing : List Char} {a : α}
  {item : Reader α} {fuel limit : Nat}

/-! ## Items

The reader of items loops over lines with fuel to spare.  Each round takes the indent of a line, the
item, and the comma; the line break is left for the next round, as the space in front of its item.
-/

/-- Whether an item of a record can begin with a character: one that is neither space nor the end of
the record. -/
def opensItem (c : Char) : Bool := c != '/' && !isSpace c && c != ')'

/-- What is written is read as what it stands for. -/
structure Reads (item : Reader α) (written : List Char) (a : α) : Prop where
  /-- It is read up to the comma behind it. -/
  read (rest : List Char) : item (written ++ ',' :: rest) = some (a, ',' :: rest)
  /-- It does not begin as something else. -/
  head : ∃ c cs, written = c :: cs ∧ opensItem c = true

theorem opensItem_of_isLower (h : c.isLower = true) : opensItem c = true := by
  have hopens : ∀ c : Char, c.toNat < 128 → c.isLower = true → opensItem c = true :=
    forall_isAscii (by decide +kernel)
  exact hopens c (isAscii_of_isLower h) h

theorem skipSpace_of_opensItem (h : opensItem c = true) : skipSpace (c :: cs) = some (c :: cs) := by
  simp only [opensItem, Bool.and_eq_true, bne_iff_ne, Bool.not_eq_true'] at h
  rw [skipSpace_cons h.1.1, h.1.2, if_neg Bool.false_ne_true]

/-- Space in front of items does not matter. -/
theorem items?_congr (h : skipSpace cs = skipSpace rest) :
    items? item ')' fuel cs = items? item ')' fuel rest := by
  cases fuel with
  | zero => rfl
  | succ fuel => rw [items?, items?, h]

/-- One item is read, and the others after it. -/
theorem items?_cons (h : Reads item written a) (rest : List Char) :
    items? item ')' (fuel + 1) (written ++ ',' :: rest) =
      (items? item ')' fuel rest).map fun (as, rest) => (a :: as, rest) := by
  have hitem := h.read rest
  have hcomma : skipSpace (',' :: rest) = some (',' :: rest) := skipSpace_of_opensItem (by decide)
  obtain ⟨c, cs, rfl, hc⟩ := h.head
  have hopen : c ≠ ')' := by
    rintro rfl
    exact absurd hc (by decide)
  -- -- neither space nor the end of the record comes first, so that the item is read
  rw [List.cons_append] at hitem
  rw [items?, List.cons_append, skipSpace_of_opensItem hc]
  simp only [Option.bind_eq_bind, Option.bind_some]
  rw [if_neg hopen, hitem]
  simp only [Option.bind_some]
  rw [hcomma]
  rfl

/-- An item on a line of its own. -/
def lineChars (indent written : List Char) : List Char := indent ++ (written ++ [',', '\n'])

/-- **Items a line are read one after the other.** -/
theorem items?_lines {lines : List (List Char)} {as : List α}
    (hlines : List.Forall₂ (Reads item) lines as) (hindent : ∀ c ∈ indent, isSpace c = true)
    (hclosing : ∀ c ∈ closing, isSpace c = true) (hfuel : lines.length < fuel) (rest : List Char) :
    items? item ')' fuel (lines.flatMap (lineChars indent) ++ (closing ++ ')' :: rest)) =
      some (as, rest) := by
  induction hlines generalizing fuel with
  -- -- after the last line there is only the end of the record, which takes one more round
  | nil =>
    cases fuel with
    | zero => simp at hfuel
    | succ fuel =>
      have hskip : skipSpace (closing ++ ')' :: rest) = some (')' :: rest) := by
        rw [skipSpace_append hclosing]
        rfl
      rw [List.flatMap_nil, List.nil_append, items?, hskip]
      rfl
  | @cons written a lines as hread _ ih =>
    cases fuel with
    | zero => simp at hfuel
    | succ fuel =>
      -- -- one line: its indent is skipped, its item read, and the line break is skipped with the
      -- next indent
      have hnewline : ∀ cs, skipSpace ('\n' :: cs) = skipSpace cs := fun _ =>
        skipSpace_of_isSpace (by decide)
      have hline : (written :: lines).flatMap (lineChars indent) ++ (closing ++ ')' :: rest) =
          indent ++ (written ++ ',' :: '\n' ::
            (lines.flatMap (lineChars indent) ++ (closing ++ ')' :: rest))) := by
        simp [lineChars]
      rw [hline, items?_congr (skipSpace_append hindent _), items?_cons hread,
        items?_congr (hnewline _), ih (Nat.lt_of_succ_lt_succ hfuel), Option.map_some]

/-- No line is empty, so that there is fuel for all of them. -/
theorem length_le_length_lines (indent : List Char) (lines : List (List Char)) :
    lines.length ≤ (lines.flatMap (lineChars indent)).length := by
  induction lines with
  | nil => exact Nat.le_refl 0
  | cons written lines ih =>
    rw [List.flatMap_cons, List.length_append, lineChars, List.length_append, List.length_append,
      List.length_cons, List.length_cons]
    omega

/-! ## Fields

A field is an item like any other, with a name and a colon in front of its value. -/

/-- A field as it is written. -/
def fieldChars (field : String × List Char) : List Char := field.1.toList ++ ':' :: ' ' :: field.2

/-- A field, its value as it is written, stands for a name and a value. -/
structure ReadsField (element : Reader Value) (field : String × List Char)
    (value : String × Value) : Prop where
  /-- Its name is one that settings have. -/
  plain : isPlainName field.1.toList = true
  /-- The name is the same. -/
  same : field.1 = value.1
  /-- The value is read. -/
  reads : Reads element field.2 value.2

namespace ReadsField

variable {element : Reader Value} {field : String × List Char} {value : String × Value}

theorem exists_head (h : ReadsField element field value) :
    ∃ c cs, fieldChars field = c :: cs ∧ opensItem c = true := by
  have hplain := h.plain
  rw [isPlainName, Bool.and_eq_true] at hplain
  obtain ⟨hhead, -⟩ := hplain
  cases hchars : field.1.toList with
  | nil => simp [hchars] at hhead
  | cons c cs =>
    have hlower : c.isLower = true := by simpa [hchars] using hhead
    exact ⟨c, cs ++ ':' :: ' ' :: field.2, by simp [fieldChars, hchars], opensItem_of_isLower hlower⟩

theorem skipSpace_colon (cs : List Char) : skipSpace (':' :: cs) = some (':' :: cs) :=
  skipSpace_of_opensItem (by decide)

/-- **A field is read** as its name and its value. -/
theorem reads_pair (h : ReadsField element field value) :
    Reads (pair? name? element) (fieldChars field) value where
  read rest := by
    have hspace : skipSpace (' ' :: (field.2 ++ ',' :: rest)) = some (field.2 ++ ',' :: rest) := by
      obtain ⟨c, cs, hchars, hc⟩ := h.reads.head
      rw [hchars]
      exact (skipSpace_of_isSpace (by decide)).trans (skipSpace_of_opensItem hc)
    rw [fieldChars, List.append_assoc, List.cons_append, List.cons_append, pair?,
      name?_append h.plain]
    simp only [Option.bind_eq_bind, Option.bind_some, skipSpace_colon, hspace, h.reads.read rest,
      String.ofList_toList, h.same]
    rfl
  head := h.exists_head

/-- A field makes a record of what stands in parentheses. -/
theorem startsRecord (h : ReadsField element field value) (rest : List Char) :
    startsRecord (fieldChars field ++ rest) = true := by
  rw [Settings.startsRecord, fieldChars, List.append_assoc, List.cons_append,
    word?_append h.plain continuesName_colon (by decide)]
  dsimp only
  rw [skipSpace_colon]
  rfl

end ReadsField

/-! ## Scalar values

What kind of value stands somewhere is decided by its first characters.  The reader has many cases
for that; what is written takes four of them. -/

/-- What begins neither a name nor a record, a list, a map, a text or a character, is a number. -/
theorem valueWith?_of_head (n : Nested) (hword : beginsName c = false)
    (hopen : c ∉ ['(', '[', '\x7b', '"', '\'']) (cs : List Char) :
    valueWith? ext n (c :: cs) = numberOrRange? (c :: cs) := by
  have hnames : ∀ letter : Char, letter.isLower = true → c ≠ letter := by
    rintro letter hlower rfl
    rw [beginsName_of_isLower hlower] at hword
    cases hword
  have hr := hnames 'r' (by decide)
  have hb := hnames 'b' (by decide)
  unfold valueWith?
  rw [word?_eq_none hword]
  clear hnames hword
  dsimp only
  split
  all_goals simp_all

/-- The first characters of values that are written without a name in front. -/
theorem beginsName_eq_false (h : c ∈ '(' :: '"' :: integerHeads) : beginsName c = false := by
  have hheads : ∀ c ∈ '(' :: '"' :: integerHeads, c.toNat < 128 ∧ (c == '_' || c.isAlpha) = false :=
    List.all_iff_forall_prop.mp (by decide)
  rw [beginsName_of_isAscii (hheads c h).1]
  exact (hheads c h).2

/-- **A number is read**, unless it is too large for any type. -/
theorem reads_integer (n : Nested) {negative : Bool} {k : Nat}
    (hholds : (widestType negative).holds negative k = true) :
    Reads (valueWith? ext n) (integerChars negative k) (.integer ⟨negative, k, none⟩) where
  read rest := by
    rw [← numberOrRange?_integerChars hholds rest]
    obtain ⟨c, cs, hchars, hc⟩ := exists_head_integerChars negative k
    have hplain : ∀ c ∈ integerHeads, c ∉ ['(', '[', '\x7b', '"', '\''] :=
      List.all_iff_forall_prop.mp (by decide)
    rw [hchars]
    exact valueWith?_of_head n (beginsName_eq_false (by simp [hc])) (hplain c hc) _
  head := by
    obtain ⟨c, cs, hchars, hc⟩ := exists_head_integerChars negative k
    have hopens : ∀ c ∈ integerHeads, opensItem c = true := List.all_iff_forall_prop.mp (by decide)
    exact ⟨c, cs, hchars, hopens c hc⟩

/-- A quotation mark begins a text.  The text is a variable here, so that it stays closed until it
is known that no word begins it. -/
theorem valueWith?_quotationMark (n : Nested) {tail : List Char} (hcs : cs = '"' :: tail) :
    valueWith? ext n cs = (text? cs).map fun (s, rest) => (.text s, rest) := by
  have hword : word? cs = none := hcs ▸ word?_eq_none (beginsName_eq_false (by decide))
  unfold valueWith?
  simp only [hword]
  clear hword
  subst hcs
  rfl

/-- A parenthesis with a line break behind it begins a record or a tuple. -/
theorem valueWith?_parenthesis (n : Nested) {inner : List Char} (hcs : cs = '(' :: '\n' :: inner) :
    valueWith? ext n cs = n.group? none ('\n' :: inner) := by
  have hword : word? cs = none := hcs ▸ word?_eq_none (beginsName_eq_false (by decide))
  unfold valueWith?
  simp only [hword]
  clear hword
  subst hcs
  rfl

/-- **A text is read**, whatever stands behind it. -/
theorem valueWith?_quoted (n : Nested) (s : String) (rest : List Char) :
    valueWith? ext n ((quoted .file s).toList ++ rest) = some (.text s, rest) := by
  have htext : (quoted .file s).toList ++ rest =
      '"' :: (s.toList.flatMap (escapeChar .file) ++ '"' :: rest) := by
    simp [quoted]
  rw [valueWith?_quotationMark n htext, text?_quoted, Option.map_some]

theorem reads_text (n : Nested) (s : String) :
    Reads (valueWith? ext n) (quoted .file s).toList (.text s) where
  read rest := valueWith?_quoted n s _
  head := by
    refine ⟨'"', s.toList.flatMap (escapeChar .file) ++ ['"'], ?_, by decide⟩
    simp [quoted]

/-- **A truth value is read** as the word that it is. -/
theorem reads_flag (n : Nested) (b : Bool) :
    Reads (valueWith? ext n) (flagText b).toList (.flag b) where
  read rest := by
    have hname : isPlainName (flagText b).toList = true := by
      cases b <;> decide
    have hword : word? ((flagText b).toList ++ ',' :: rest) = some (flagText b, ',' :: rest) := by
      rw [word?_append hname continuesName_comma (by decide), String.ofList_toList]
    have hraw : dropToken? "r#" ((flagText b).toList ++ ',' :: rest) = none := by
      cases b <;> exact dropToken?_eq_none (by decide +kernel)
    generalize (flagText b).toList ++ ',' :: rest = cs at hword hraw ⊢
    unfold valueWith?
    simp only [hword, hraw]
    cases b <;> rfl
  head := by
    cases b with
    | true => exact ⟨'t', ['r', 'u', 'e'], rfl, by decide⟩
    | false => exact ⟨'f', ['a', 'l', 's', 'e'], rfl, by decide⟩

/-! ## Records

A record opens two levels, one for itself and one for its fields.  The sections are records within a
record, so that the file needs four. -/

variable {n : Nested} {fields : List (String × List Char)} {values : List (String × Value)}

/-- A record with a field a line. -/
def recordChars (indent closing : List Char) (fields : List (String × List Char)) : List Char :=
  '(' :: '\n' :: ((fields.map fieldChars).flatMap (lineChars indent) ++ (closing ++ [')']))

/-- **The fields of a record are read**, after its opening parenthesis. -/
theorem group?_fields (hcontainer : n.container = true)
    (hfields : List.Forall₂ (ReadsField n.element) fields values) (hne : fields ≠ [])
    (hindent : ∀ c ∈ indent, isSpace c = true) (hclosing : ∀ c ∈ closing, isSpace c = true)
    (rest : List Char) :
    n.group? none ('\n' :: ((fields.map fieldChars).flatMap (lineChars indent) ++
      (closing ++ ')' :: rest))) = some (.record none values, rest) := by
  have hlines : List.Forall₂ (Reads (pair? name? n.element)) (fields.map fieldChars) values := by
    rw [List.forall₂_map_left_iff]
    exact hfields.imp fun _ _ h => h.reads_pair
  -- -- the first field is looked at, to see that this is a record
  cases hfields with
  | nil => exact absurd rfl hne
  | @cons field value fields values hfield _ =>
    generalize hmore : (fields.map fieldChars).flatMap (lineChars indent) ++ (closing ++ ')' :: rest) =
      more
    have htext : ((field :: fields).map fieldChars).flatMap (lineChars indent) ++
        (closing ++ ')' :: rest) = indent ++ (fieldChars field ++ ',' :: '\n' :: more) := by
      simp [lineChars, ← hmore]
    have hskip : skipSpace (fieldChars field ++ ',' :: '\n' :: more) =
        some (fieldChars field ++ ',' :: '\n' :: more) := by
      obtain ⟨c, cs, hfirst, hc⟩ := hfield.exists_head
      rw [hfirst]
      exact skipSpace_of_opensItem hc
    have hfuel : ((field :: fields).map fieldChars).length <
        (fieldChars field ++ ',' :: '\n' :: more).length + 1 := by
      have hlength := length_le_length_lines indent (fields.map fieldChars)
      have hmore := congrArg List.length hmore
      simp only [List.length_append, List.length_cons, List.length_map] at hlength hmore ⊢
      omega
    have hitems := items?_lines hlines hindent hclosing hfuel rest
    rw [htext, items?_congr (skipSpace_append hindent _)] at hitems
    rw [htext, Nested.group?, skipSpace_of_isSpace (by decide), skipSpace_append hindent, hskip]
    simp only [Option.bind_eq_bind, Option.bind_some, hfield.startsRecord, Bool.true_or, if_true,
      Nested.fields?, hcontainer, list?, hitems]
    rfl

/-- **A record is read**, whatever stands behind it. -/
theorem valueWith?_record (hcontainer : n.container = true)
    (hfields : List.Forall₂ (ReadsField n.element) fields values) (hne : fields ≠ [])
    (hindent : ∀ c ∈ indent, isSpace c = true) (hclosing : ∀ c ∈ closing, isSpace c = true)
    (rest : List Char) :
    valueWith? ext n (recordChars indent closing fields ++ rest) =
      some (.record none values, rest) := by
  have htext : recordChars indent closing fields ++ rest =
      '(' :: '\n' :: ((fields.map fieldChars).flatMap (lineChars indent) ++
        (closing ++ ')' :: rest)) := by
    simp [recordChars]
  rw [valueWith?_parenthesis n htext, group?_fields hcontainer hfields hne hindent hclosing]

theorem value?_add_two (ext : Extensions) (limit : Nat) :
    value? ext (limit + 2) false =
      valueWith? ext ⟨true, value? ext limit false, value? ext (limit + 1)⟩ :=
  rfl

/-- A value that can be read without opening anything can be read at every depth. -/
theorem reads_value? {v : Value} (h : ∀ n, Reads (valueWith? ext n) written v) (limit : Nat) :
    Reads (value? ext limit false) written v := by
  match limit with
  | 0 => exact h _
  | 1 => exact h _
  | limit + 2 => exact h _

/-- **A record is read as its fields**, if the nesting limit allows for two levels more than they
need. -/
theorem value?_record
    (hfields : List.Forall₂ (ReadsField (value? ext limit false)) fields values)
    (hne : fields ≠ []) (hindent : ∀ c ∈ indent, isSpace c = true)
    (hclosing : ∀ c ∈ closing, isSpace c = true) (rest : List Char) :
    value? ext (limit + 2) false (recordChars indent closing fields ++ rest) =
      some (.record none values, rest) := by
  rw [value?_add_two]
  exact valueWith?_record rfl hfields hne hindent hclosing rest

theorem reads_record
    (hfields : List.Forall₂ (ReadsField (value? ext limit false)) fields values)
    (hne : fields ≠ []) (hindent : ∀ c ∈ indent, isSpace c = true)
    (hclosing : ∀ c ∈ closing, isSpace c = true) :
    Reads (value? ext (limit + 2) false) (recordChars indent closing fields)
      (.record none values) where
  read rest := value?_record hfields hne hindent hclosing _
  head := ⟨'(', _, rfl, by decide⟩

end ChatLobby.Settings
