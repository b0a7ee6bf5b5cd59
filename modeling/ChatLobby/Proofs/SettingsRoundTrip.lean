import ChatLobby.Packet.Payload
import ChatLobby.Proofs.WrittenRecords
import ChatLobby.Settings.Store

/-!
# Settings, saved and loaded

Settings that were saved are what is loaded from then on.  The file tells every setting, each is
read as it was written, and none is taken from the defaults.

* `Settings.readsSections`: the sections of the file are read as the values of the settings.
* `Settings.ofText?_fileText`: the text of the file is read as the settings.
* `Settings.save_round_trip`: what was saved is loaded, and reloading tells whether it differs.
-/

namespace ChatLobby

open Text

namespace Settings

variable {ext : Extensions} {limit : Nat} {name : String}

/-! ## The values of settings

Between the text of the file and the settings stand values.  They are given here for the settings as
they are, and then compared with what is read from the text, and with what is made of them. -/

/-- A natural number as a value. -/
def naturalValue (n : Nat) : Value := .integer ⟨false, n, none⟩

/-- An integer as a value. -/
def integerValue (i : Int) : Value := .integer ⟨i < 0, i.natAbs, none⟩

/-- The values of the section on listening and admission. -/
def serverValues (s : ServerSettings) : List (String × Value) :=
  [("bind_address", .text s.bindAddress),
    ("port", naturalValue s.port.toNat),
    ("max_connections", naturalValue s.maxConnections.toNat)]

/-- The values of the section on buffers and frames. -/
def transportValues (s : TransportSettings) : List (String × Value) :=
  [("recv_buffer_size", naturalValue s.recvBufferSize.toNat),
    ("min_recv_space", naturalValue s.minRecvSpace.toNat),
    ("send_chunk_size", naturalValue s.sendChunkSize.toNat),
    ("max_frame", naturalValue s.maxFrame.toNat)]

/-- The values of the section on socket options. -/
def socketValues (s : SocketSettings) : List (String × Value) :=
  [("nodelay", .flag s.noDelay),
    ("keepalive", .flag s.keepalive),
    ("keepalive_idle_secs", naturalValue s.keepaliveIdleSecs.toNat),
    ("keepalive_interval_secs", naturalValue s.keepaliveIntervalSecs.toNat),
    ("keepalive_retries", naturalValue s.keepaliveRetries.toNat),
    ("backlog", integerValue s.backlog.toInt)]

/-- The values of the section on logging. -/
def debugValues (s : DebugSettings) : List (String × Value) := [("log_level", .text s.logLevel)]

/-- The sections with their values, in the order of the file. -/
def values (s : Settings) : List (String × List (String × Value)) :=
  [("server", serverValues s.server), ("transport", transportValues s.transport),
    ("socket", socketValues s.socket), ("debug", debugValues s.debug)]

/-- The value of settings. -/
def value (s : Settings) : Value :=
  .record none (s.values.map fun sec => (sec.1, .record none sec.2))

/-! ## Ranges of integers -/

theorem holds_natural {bits n : Nat} (h : n < 2 ^ bits) :
    IntegerType.holds ⟨false, bits⟩ false n = true := by
  rw [← Nat.one_shiftLeft] at h
  exact decide_eq_true h

theorem holds_negative {bits n : Nat} (h : n ≤ 2 ^ bits) :
    IntegerType.holds ⟨true, bits + 1⟩ true n = true := by
  rw [← Nat.one_shiftLeft] at h
  exact decide_eq_true h

theorem holds_positive {bits n : Nat} (h : n < 2 ^ bits) :
    IntegerType.holds ⟨true, bits + 1⟩ false n = true := by
  rw [← Nat.one_shiftLeft] at h
  exact decide_eq_true h

/-! ## The file is read as the values

Every setting is written on a line of its own, so that the file is read setting by setting. -/

theorem toList_toString_nat (n : Nat) : (toString n).toList = integerChars false n :=
  Nat.toList_repr

theorem toList_toString_int (i : Int) :
    (toString i).toList = integerChars (decide (i < 0)) i.natAbs := by
  cases i with
  | ofNat n =>
    have hsign : ¬ Int.ofNat n < 0 := Int.not_lt.mpr (Int.natCast_nonneg n)
    rw [decide_eq_false hsign]
    exact Nat.toList_repr
  | negSucc n =>
    have htext : (toString (Int.negSucc n)).toList = '-' :: (n + 1).repr.toList := by
      change ("-" ++ (n + 1).repr).toList = _
      rw [String.toList_append]
      rfl
    rw [decide_eq_true (Int.negSucc_lt_zero n), htext, Nat.toList_repr]
    rfl

/-- A setting, its value as a text, stands for a name and a value. -/
def ReadsSetting (limit : Nat) (field : String × String) (value : String × Value) : Prop :=
  ReadsField (value? {} limit false) (field.1, field.2.toList) value

theorem readsSetting (hname : isPlainName name.toList = true) {text : String} {v : Value}
    (hreads : ∀ n, Reads (valueWith? {} n) text.toList v) :
    ReadsSetting limit (name, text) (name, v) :=
  ⟨hname, rfl, reads_value? hreads limit⟩

theorem readsSetting_text (hname : isPlainName name.toList = true) (s : String) :
    ReadsSetting limit (name, quoted .file s) (name, .text s) :=
  readsSetting hname fun n => reads_text n s

theorem readsSetting_flag (hname : isPlainName name.toList = true) (b : Bool) :
    ReadsSetting limit (name, flagText b) (name, .flag b) :=
  readsSetting hname fun n => reads_flag n b

theorem readsSetting_natural (hname : isPlainName name.toList = true) {k : Nat} (hk : k < 2 ^ 64) :
    ReadsSetting limit (name, toString k) (name, naturalValue k) := by
  refine readsSetting hname fun n => ?_
  rw [toList_toString_nat]
  exact reads_integer n (holds_natural hk)

theorem readsSetting_integer (hname : isPlainName name.toList = true) (i : Int32) :
    ReadsSetting limit (name, toString i.toInt) (name, integerValue i.toInt) := by
  have hlow := i.le_toInt
  have hhigh := i.toInt_lt
  have hholds : (widestType (decide (i.toInt < 0))).holds (decide (i.toInt < 0)) i.toInt.natAbs =
      true := by
    by_cases hsign : i.toInt < 0
    · rw [decide_eq_true hsign]
      exact holds_negative (by omega)
    · rw [decide_eq_false hsign]
      exact holds_natural (by omega)
  refine readsSetting hname fun n => ?_
  rw [toList_toString_int]
  exact reads_integer n hholds

/-- A section with its settings stands for a name and their values. -/
structure ReadsSection (limit : Nat) (sec : String × List (String × String))
    (values : String × List (String × Value)) : Prop where
  /-- Its name is one that settings have. -/
  plain : isPlainName sec.1.toList = true
  /-- The name is the same. -/
  same : sec.1 = values.1
  /-- There is something in it. -/
  ne_nil : sec.2 ≠ []
  /-- Its settings are read. -/
  settings : List.Forall₂ (ReadsSetting limit) sec.2 values.2

theorem readsSection (hname : isPlainName name.toList = true) {settings : List (String × String)}
    {values : List (String × Value)} (hne : settings ≠ [])
    (hsettings : List.Forall₂ (ReadsSetting limit) settings values) :
    ReadsSection limit (name, settings) (name, values) :=
  ⟨hname, rfl, hne, hsettings⟩

/-- **The sections of the file are read** as the values of the settings. -/
theorem readsSections (s : Settings) : List.Forall₂ (ReadsSection limit) s.sections s.values := by
  have hretries : s.socket.keepaliveRetries.toNat < 2 ^ 64 := by
    have := s.socket.keepaliveRetries.toNat_lt
    omega
  have hport : s.server.port.toNat < 2 ^ 64 := by
    have := s.server.port.toNat_lt
    omega
  refine .cons (readsSection (by decide) (List.cons_ne_nil _ _) ?server) <|
    .cons (readsSection (by decide) (List.cons_ne_nil _ _) ?transport) <|
    .cons (readsSection (by decide) (List.cons_ne_nil _ _) ?socket) <|
    .cons (readsSection (by decide) (List.cons_ne_nil _ _) ?debug) .nil
  case server =>
    exact .cons (readsSetting_text (by decide) _) <|
      .cons (readsSetting_natural (by decide) hport) <|
      .cons (readsSetting_natural (by decide) (UInt64.toNat_lt _)) .nil
  case transport =>
    exact .cons (readsSetting_natural (by decide) (UInt64.toNat_lt _)) <|
      .cons (readsSetting_natural (by decide) (UInt64.toNat_lt _)) <|
      .cons (readsSetting_natural (by decide) (UInt64.toNat_lt _)) <|
      .cons (readsSetting_natural (by decide) (UInt64.toNat_lt _)) .nil
  case socket =>
    exact .cons (readsSetting_flag (by decide) _) <|
      .cons (readsSetting_flag (by decide) _) <|
      .cons (readsSetting_natural (by decide) (UInt64.toNat_lt _)) <|
      .cons (readsSetting_natural (by decide) (UInt64.toNat_lt _)) <|
      .cons (readsSetting_natural (by decide) hretries) <|
      .cons (readsSetting_integer (by decide) _) .nil
  case debug =>
    exact .cons (readsSetting_text (by decide) _) .nil

/-! ## The text of the file

The text is put together from strings, line by line.  Here it is taken apart into the records that
the reader was shown to read. -/

/-- The space in front of settings. -/
def settingIndent : List Char := List.replicate 8 ' '

/-- The space in front of sections. -/
def sectionIndent : List Char := List.replicate 4 ' '

/-- The settings of a section, as they are written. -/
def sectionChars (settings : List (String × String)) : List Char :=
  recordChars settingIndent sectionIndent (settings.map fun field => (field.1, field.2.toList))

theorem toList_fieldLine (field : String × String) :
    (fieldLine field).toList = lineChars settingIndent (fieldChars (field.1, field.2.toList)) := by
  have hindent : "        ".toList = settingIndent := rfl
  have hcolon : ": ".toList = [':', ' '] := rfl
  have hend : ",\n".toList = [',', '\n'] := rfl
  have htext : ∀ text : String, toString text = text := fun _ => rfl
  simp only [fieldLine, String.toList_append, hindent, hcolon, hend, htext, lineChars, fieldChars,
    List.append_assoc, List.cons_append, List.nil_append]

theorem toList_lines (settings : List (String × String)) :
    (String.join (settings.map fieldLine)).toList =
      ((settings.map fun field => (field.1, field.2.toList)).map fieldChars).flatMap
        (lineChars settingIndent) := by
  simp only [String.toList_join, List.flatMap_map, List.map_map, toList_fieldLine, Function.comp_def]

theorem toList_sectionText (sec : String × List (String × String)) :
    (sectionText sec).toList = lineChars sectionIndent (fieldChars (sec.1, sectionChars sec.2)) := by
  have hindent : "    ".toList = sectionIndent := rfl
  have hopen : ": (\n".toList = [':', ' ', '(', '\n'] := rfl
  have hclose : "    ),\n".toList = sectionIndent ++ [')', ',', '\n'] := rfl
  have htext : ∀ text : String, toString text = text := fun _ => rfl
  simp only [sectionText, String.toList_append, hindent, hopen, hclose, htext, toList_lines,
    lineChars, fieldChars, sectionChars, recordChars, List.append_assoc, List.cons_append,
    List.nil_append]

/-- **The file is a record of records**, with a field a line. -/
theorem toList_fileText (s : Settings) :
    s.fileText.toList =
      recordChars sectionIndent [] (s.sections.map fun sec => (sec.1, sectionChars sec.2)) := by
  have hopen : "(\n".toList = ['(', '\n'] := rfl
  have hclose : ")".toList = [')'] := rfl
  simp only [fileText, String.toList_append, String.toList_join, hopen, hclose, List.flatMap_map,
    List.map_map, toList_sectionText, Function.comp_def, recordChars, List.cons_append,
    List.nil_append]

theorem isSpace_of_mem_replicate {n : Nat} {c : Char} (h : c ∈ List.replicate n ' ') :
    isSpace c = true := by
  rw [List.eq_of_mem_replicate h]
  rfl

/-- A section is read as the record of its values. -/
theorem ReadsSection.readsField {sec : String × List (String × String)}
    {values : String × List (String × Value)} (h : ReadsSection limit sec values) :
    ReadsField (value? {} (limit + 2) false) (sec.1, sectionChars sec.2)
      (values.1, .record none values.2) where
  plain := h.plain
  same := h.same
  reads := by
    have hfields : List.Forall₂ (ReadsField (value? {} limit false))
        (sec.2.map fun field => (field.1, field.2.toList)) values.2 := by
      rw [List.forall₂_map_left_iff]
      exact h.settings
    exact reads_record hfields (by simpa using h.ne_nil) (fun _ => isSpace_of_mem_replicate)
      (fun _ => isSpace_of_mem_replicate)

/-- **The text of the file is read as the values of the settings.** -/
theorem document?_fileText (s : Settings) : document? s.fileText = some ({}, s.value) := by
  have hfields : List.Forall₂ (ReadsField (value? {} (124 + 2) false))
      (s.sections.map fun sec => (sec.1, sectionChars sec.2))
      (s.values.map fun sec => (sec.1, Value.record none sec.2)) := by
    rw [List.forall₂_map_left_iff, List.forall₂_map_right_iff]
    exact (readsSections s).imp fun _ _ h => h.readsField
  have hspace : ∀ c ∈ sectionIndent, isSpace c = true := fun _ => isSpace_of_mem_replicate
  have hread : value? {} nestingLimit false s.fileText.toList = some (s.value, []) := by
    have hclosing : ∀ c ∈ ([] : List Char), isSpace c = true := fun _ h => absurd h List.not_mem_nil
    have hrecord := value?_record hfields (List.cons_ne_nil _ _) hspace hclosing []
    rwa [List.append_nil, ← toList_fileText] at hrecord
  -- -- the file has no attributes in front, as it begins with a parenthesis
  have hattributes : attributes? {} (s.fileText.toList.length + 1) s.fileText.toList =
      some ({}, s.fileText.toList) := by
    obtain ⟨cs, hcs⟩ : ∃ cs, s.fileText.toList = '(' :: cs := ⟨_, toList_fileText s⟩
    rw [hcs, attributes?, skipSpace_of_opensItem (by decide)]
    rfl
  rw [document?]
  simp only [Option.bind_eq_bind, hattributes, Option.bind_some, hread]
  rfl

/-! ## The values are read as the settings

What has become of a value is told by its type: each setting is asked for with the type that it has,
and every value is in its range. -/

/-- An integer without a suffix has every type that holds it. -/
theorem readInteger_of_holds {type : IntegerType} {negative : Bool} {n : Nat}
    (h : type.holds negative n = true) :
    readInteger type (.integer ⟨negative, n, none⟩) = some (if negative then -(n : Int) else n) := by
  rw [readInteger]
  exact if_pos h

theorem readUnsigned_naturalValue {bits n : Nat} (h : n < 2 ^ bits) :
    readUnsigned bits (naturalValue n) = some n := by
  rw [readUnsigned, naturalValue, readInteger_of_holds (holds_natural h)]
  rfl

theorem readInteger_integerValue (i : Int32) :
    readInteger ⟨true, 32⟩ (integerValue i.toInt) = some i.toInt := by
  have hlow := i.le_toInt
  have hhigh := i.toInt_lt
  rw [integerValue]
  by_cases hsign : i.toInt < 0
  · rw [decide_eq_true hsign, readInteger_of_holds (holds_negative (by omega)), if_pos rfl,
      Option.some_inj]
    omega
  · rw [decide_eq_false hsign, readInteger_of_holds (holds_positive (by omega)),
      if_neg Bool.false_ne_true, Option.some_inj]
    omega

theorem readUnsigned_size (size : UInt64) :
    readUnsigned 64 (naturalValue size.toNat) = some size.toNat :=
  readUnsigned_naturalValue size.toNat_lt

/-- Each section is read from its values. -/
theorem readServer_serverValues (s : ServerSettings) :
    readServer {} (.record none (serverValues s)) = some s := by
  have hport : readUnsigned 16 (naturalValue s.port.toNat) = some s.port.toNat :=
    readUnsigned_naturalValue s.port.toNat_lt
  simp [readServer, serverValues, recordFields?, fieldOr?, field?, readText, hport,
    readUnsigned_size]

theorem readTransport_transportValues (s : TransportSettings) :
    readTransport {} (.record none (transportValues s)) = some s := by
  simp [readTransport, transportValues, recordFields?, fieldOr?, field?, readUnsigned_size]

theorem readSocket_socketValues (s : SocketSettings) :
    readSocket {} (.record none (socketValues s)) = some s := by
  have hretries : readUnsigned 32 (naturalValue s.keepaliveRetries.toNat) =
      some s.keepaliveRetries.toNat :=
    readUnsigned_naturalValue s.keepaliveRetries.toNat_lt
  simp [readSocket, socketValues, recordFields?, fieldOr?, field?, readFlag, readUnsigned_size,
    hretries, readInteger_integerValue]

theorem readDebug_debugValues (s : DebugSettings) :
    readDebug {} (.record none (debugValues s)) = some s := by
  simp [readDebug, debugValues, recordFields?, fieldOr?, field?, readText]

/-- **The values are read as the settings.** -/
theorem ofValue?_value (s : Settings) : ofValue? {} s.value = some s := by
  simp [ofValue?, value, values, recordFields?, fieldOr?, field?, readServer_serverValues,
    readTransport_transportValues, readSocket_socketValues, readDebug_debugValues]

/-- **The text of the file is read as the settings.** -/
theorem ofText?_fileText (s : Settings) : ofText? s.fileText = some s := by
  rw [ofText?, document?_fileText]
  exact ofValue?_value s

end Settings

/-! ## The file is loaded

Saving writes the file as it was given, and nothing comes in between before it is loaded. -/

theorem FileTree.has_of_read {t : FileTree} {p : Path} {content : Bytes}
    (h : t.read p = .ok content) : t.has p = true := by
  rw [FileTree.read] at h
  rw [FileTree.has]
  cases hfind : t.find p with
  | error cause =>
    rw [hfind] at h
    cases h
  | ok entry => rfl

namespace Settings

variable {s : Settings} {t t' : FileTree} {directory : Path}

/-- What is saved is the text of the file. -/
theorem read_of_save (h : s.save t directory = .ok t') :
    t'.read (directory.child fileName) = .ok (Bytes.ofString s.fileText) := by
  rw [save] at h
  cases hmade : t.makeDirectories directory with
  | error cause =>
    rw [hmade] at h
    cases h
  | ok made =>
    rw [hmade] at h
    cases hwritten : made.write (directory.child fileName) (Bytes.ofString s.fileText) with
    | error cause =>
      change Except.mapError _ (made.write _ _) = _ at h
      rw [hwritten] at h
      cases h
    | ok written =>
      change Except.mapError _ (made.write _ _) = _ at h
      rw [hwritten] at h
      cases h
      exact FileTree.read_write hwritten

theorem load_of_save (h : s.save t directory = .ok t') : load t' directory = .ok s := by
  have htext : Bytes.toString? (Bytes.ofString s.fileText) = some s.fileText :=
    Payload.toString?_ofString _
  simp only [load, read_of_save h, Except.mapError, bind, Except.bind, htext, ofText?_fileText]
  rfl

/-- **Settings that were saved are what is loaded from then on**, and the tree stays as it is.
Reloading finds nothing new just if the settings at hand are those. -/
theorem save_round_trip (h : s.save t directory = .ok t') :
    loadOrCreate t' directory = .ok (s, t') ∧
      ∀ c : Settings, c.reload t' directory = .ok (if c = s then none else some s) := by
  have hload := load_of_save h
  have hhas := FileTree.has_of_read (read_of_save h)
  constructor
  · rw [loadOrCreate, if_pos hhas, hload]
    rfl
  · intro c
    rw [reload, hload]
    simp only [Except.map, eq_comm]

/-- Settings with characters that are escaped, and with a negative number. -/
def escapedSettings : Settings where
  server := { bindAddress := "\"\\\n\x00" }
  socket := { backlog := -1 }

theorem save_round_trip_escapedSettings :
    ∃ t', escapedSettings.save {} ⟨"/conf"⟩ = .ok t' ∧
      loadOrCreate t' ⟨"/conf"⟩ = .ok (escapedSettings, t') ∧
      ({} : Settings).reload t' ⟨"/conf"⟩ = .ok (some escapedSettings) := by
  have hsaved : ∀ s : Settings, ∃ t', s.save {} ⟨"/conf"⟩ = .ok t' := fun _ => ⟨_, rfl⟩
  obtain ⟨t', h⟩ := hsaved escapedSettings
  obtain ⟨hload, hreload⟩ := save_round_trip h
  exact ⟨t', h, hload, hreload {}⟩

end Settings

end ChatLobby
