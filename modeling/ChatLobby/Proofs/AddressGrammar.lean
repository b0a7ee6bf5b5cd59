import ChatLobby.Endpoint.Parse
import ChatLobby.Proofs.Numerals

/-!
# The grammar of addresses

How addresses are written, said without a reader.  Four octets are written in one way only: in
decimal, without needless zeros, with dots between them.  Eight groups can be written in many ways,
since digits may be of either case and zeros may stand in front, a double colon stands for one zero
group or more, and the last two groups may be in dotted form.  A scope may follow them, as a number.

* `IPv4.ofChars?_eq_some_iff`, `IPv6.ofChars?_eq_some_iff`: the readers of both families accept what
  is so written, as the address that it is, and nothing else.
* `SocketAddress.scopedV6?_eq_some_iff`: the same for eight groups with a scope.
-/

namespace ChatLobby

open Text

/-! ## Pieces of texts

Texts are cut at a separator, at the first one or at each of them.  Either way the pieces are
without the separator, and that determines them. -/

namespace Text

variable {separator : Char} {cs before after piece : List Char} {rest : List (List Char)}

/-- A text is cut at the first separator. -/
theorem splitFirst?_eq_some_iff :
    splitFirst? separator cs = some (before, after) ↔
      cs = before ++ separator :: after ∧ separator ∉ before := by
  induction cs generalizing before with
  | nil => simp [splitFirst?]
  | cons c cs ih =>
    rw [splitFirst?]
    split
    · next hc =>
      subst hc
      cases before with
      | nil => simp [eq_comm]
      | cons b before => simp +contextual [eq_comm]
    · next hc =>
      rw [Option.map_eq_some_iff]
      cases before with
      | nil => simp [hc]
      | cons b before => grind

theorem splitFirst?_append (h : separator ∉ before) (after : List Char) :
    splitFirst? separator (before ++ separator :: after) = some (before, after) :=
  splitFirst?_eq_some_iff.mpr ⟨rfl, h⟩

theorem splitFirst?_eq_none_iff : splitFirst? separator cs = none ↔ separator ∉ cs := by
  induction cs with
  | nil => simp [splitFirst?]
  | cons c cs ih =>
    rw [splitFirst?, List.mem_cons, not_or, ← ih]
    split
    · next hc => simp [hc]
    · next hc => simp [Ne.symm hc]

theorem pieces_ne_nil (separator : Char) (cs : List Char) : pieces separator cs ≠ [] := by
  cases cs with
  | nil => simp [pieces]
  | cons c cs =>
    rw [pieces]
    split
    · simp
    · split <;> simp

/-- The first piece goes up to the first separator, or is the whole text. -/
theorem pieces_eq_cons_iff :
    pieces separator cs = piece :: rest ↔
      separator ∉ piece ∧ (rest = [] ∧ cs = piece ∨
        ∃ more, cs = piece ++ separator :: more ∧ pieces separator more = rest) := by
  induction cs generalizing piece with
  | nil => cases piece <;> simp [pieces, eq_comm]
  | cons c cs ih =>
    rw [pieces]
    split
    · next hc =>
      subst hc
      cases piece with
      | nil => simp
      | cons p piece => simp +contextual [eq_comm]
    · next hc =>
      -- -- a character that does not separate belongs to the first piece of the rest
      cases hpieces : pieces separator cs with
      | nil => exact absurd hpieces (pieces_ne_nil separator cs)
      | cons first others =>
        dsimp only
        rw [hpieces] at ih
        cases piece with
        | nil => simp [hc]
        | cons p piece => grind

/-- There is one piece just where there is no separator. -/
theorem pieces_eq_singleton_iff : pieces separator cs = [piece] ↔ cs = piece ∧ separator ∉ piece := by
  rw [pieces_eq_cons_iff]
  constructor
  · rintro ⟨hpiece, ⟨-, hcs⟩ | ⟨more, -, hmore⟩⟩
    · exact ⟨hcs, hpiece⟩
    · exact absurd hmore (pieces_ne_nil separator more)
  · rintro ⟨hcs, hpiece⟩
    exact ⟨hpiece, .inl ⟨rfl, hcs⟩⟩

theorem pieces_eq_cons_cons_iff {next : List Char} :
    pieces separator cs = piece :: next :: rest ↔
      ∃ more, cs = piece ++ separator :: more ∧ separator ∉ piece ∧
        pieces separator more = next :: rest := by
  rw [pieces_eq_cons_iff]
  constructor
  · rintro ⟨hpiece, ⟨hrest, -⟩ | ⟨more, hcs, hmore⟩⟩
    · cases hrest
    · exact ⟨more, hcs, hpiece, hmore⟩
  · rintro ⟨more, hcs, hpiece, hmore⟩
    exact ⟨hpiece, .inr ⟨more, hcs, hmore⟩⟩

theorem pieces_of_notMem (h : separator ∉ cs) : pieces separator cs = [cs] :=
  pieces_eq_singleton_iff.mpr ⟨rfl, h⟩

theorem pieces_append (h : separator ∉ piece) (more : List Char) :
    pieces separator (piece ++ separator :: more) = piece :: pieces separator more :=
  pieces_eq_cons_iff.mpr ⟨h, .inr ⟨more, rfl, rfl⟩⟩

end Text

/-! ## Four octets

The form of an octet is canonical, so that an address has one text and the reader is inverted by the
writer. -/

namespace IPv4

variable {cs : List Char}

/-- **An octet is written in decimal**, without needless zeros. -/
theorem octet?_eq_some_iff {octet : UInt8} : octet? cs = some octet ↔ cs = decimal octet.toNat := by
  constructor
  · intro h
    rw [octet?] at h
    split at h
    · cases h
    next hform =>
    obtain ⟨n, hn, rfl⟩ := Option.map_eq_some_iff.mp h
    obtain ⟨hread, hsmall⟩ := Option.filter_eq_some_iff.mp hn
    have hsmall : n < 256 := of_decide_eq_true hsmall
    have hnumeral := numeral?_eq_some_iff.mp hread
    rw [UInt8.toNat_ofNat_of_lt' hsmall]
    refine hnumeral.eq_decimal fun hhead => ?_
    have hpos := List.length_pos_iff.mpr hnumeral.ne_nil
    have hshort : ¬ 1 < cs.length := fun hlong => hform (.inr ⟨hhead, hlong⟩)
    omega
  · rintro rfl
    have hlt : octet.toNat < 10 ^ 3 := by
      have := octet.toNat_lt
      omega
    -- -- the other way round, what is written for an octet is not refused for its form
    have hshort : (decimal octet.toNat).length ≤ 3 :=
      (Nat.length_toDigits_le_iff (by decide) (by decide)).mpr hlt
    have hform : ¬ (3 < (decimal octet.toNat).length ∨
        (decimal octet.toNat).head? = some '0' ∧ 1 < (decimal octet.toNat).length) := by
      rintro (hlong | ⟨hhead, hlong⟩)
      · omega
      · rw [eq_zero_of_head?_decimal hhead] at hlong
        exact absurd hlong (by decide)
    have hfilter : (some octet.toNat).filter (· < 256) = some octet.toNat :=
      Option.filter_eq_some_iff.mpr ⟨rfl, decide_eq_true octet.toNat_lt⟩
    rw [octet?, if_neg hform, numeral?_decimal, hfilter, Option.map_some, UInt8.ofNat_toNat]

theorem toList_text (ip : IPv4) :
    ip.text.toList = decimal ip.a.toNat ++ '.' :: (decimal ip.b.toNat ++ '.' ::
      (decimal ip.c.toNat ++ '.' :: decimal ip.d.toNat)) := by
  have hoctet : ∀ octet : UInt8, (toString octet).toList = decimal octet.toNat := fun _ =>
    Nat.toList_repr
  have hdot : (toString ".").toList = ['.'] := rfl
  simp only [text, String.toList_append, hoctet, hdot, List.append_assoc, List.cons_append,
    List.nil_append]

/-- An address in dotted form consists of decimal digits and dots. -/
theorem notMem_text (ip : IPv4) {c : Char} (hc : digitValue? 16 c = none) (hdot : c ≠ '.') :
    c ∉ ip.text.toList := by
  have hdecimal := notMem_decimal (digitValue?_eq_none (by decide : 10 ≤ 16) hc)
  simp [toList_text, hdecimal, hdot]

/-- **There is one dotted form of an address**, and it is read as that address. -/
theorem ofChars?_eq_some_iff {ip : IPv4} : ofChars? cs = some ip ↔ cs = ip.text.toList := by
  constructor
  · intro h
    rw [ofChars?] at h
    split at h
    · next a b c d hpieces =>
      obtain ⟨_, rfl, -, hpieces⟩ := pieces_eq_cons_cons_iff.mp hpieces
      obtain ⟨_, rfl, -, hpieces⟩ := pieces_eq_cons_cons_iff.mp hpieces
      obtain ⟨_, rfl, -, hpieces⟩ := pieces_eq_cons_cons_iff.mp hpieces
      obtain ⟨rfl, -⟩ := pieces_eq_singleton_iff.mp hpieces
      obtain ⟨_, ha, h⟩ := Option.bind_eq_some_iff.mp h
      obtain ⟨_, hb, h⟩ := Option.bind_eq_some_iff.mp h
      obtain ⟨_, hc, h⟩ := Option.bind_eq_some_iff.mp h
      obtain ⟨_, hd, h⟩ := Option.bind_eq_some_iff.mp h
      cases h
      rw [toList_text, octet?_eq_some_iff.mp ha, octet?_eq_some_iff.mp hb,
        octet?_eq_some_iff.mp hc, octet?_eq_some_iff.mp hd]
    · cases h
  · rintro rfl
    have hdot := notMem_decimal (c := '.') (by decide)
    rw [toList_text, ofChars?, pieces_append (hdot _), pieces_append (hdot _),
      pieces_append (hdot _), pieces_of_notMem (hdot _)]
    have hoctet : ∀ octet : UInt8, octet? (decimal octet.toNat) = some octet := fun _ =>
      octet?_eq_some_iff.mpr rfl
    simp only [hoctet]
    rfl

end IPv4

/-! ## Eight groups

This form is not canonical.  `IPv6.Literal` says what its texts are, constructor by constructor, and
the reader is shown to accept just these. -/

namespace IPv6

variable {dotted : Bool} {cs before after : List Char} {gs front back : List UInt16} {g : UInt16}
  {ip : IPv6}

/-- One to four hexadecimal digits, of either case. -/
structure Group (cs : List Char) (g : UInt16) : Prop where
  numeral : Numeral 16 cs g.toNat
  length_le : cs.length ≤ 4

/-- Groups with colons between them.  Those at the end may be an address in dotted form, if `dotted`
says so. -/
inductive Groups (dotted : Bool) : List Char → List UInt16 → Prop where
  /-- A single group. -/
  | group {cs : List Char} {g : UInt16} (hg : Group cs g) : Groups dotted cs [g]
  /-- Two groups in dotted form. -/
  | embedded (ip : IPv4) (hdotted : dotted = true) : Groups dotted ip.text.toList ip.toGroups
  /-- A group, and more of them behind a colon. -/
  | cons {cs more : List Char} {g : UInt16} {gs : List UInt16} (hg : Group cs g)
    (hmore : Groups dotted more gs) : Groups dotted (cs ++ ':' :: more) (g :: gs)

/-- Any number of groups, perhaps none. -/
def GroupsOrNone (dotted : Bool) (cs : List Char) (gs : List UInt16) : Prop :=
  cs = [] ∧ gs = [] ∨ Groups dotted cs gs

/-- The texts of an address of eight groups. -/
inductive Literal : List Char → IPv6 → Prop where
  /-- All groups are written. -/
  | full {cs : List Char} {ip : IPv6} (h : Groups true cs ip.groups) : Literal cs ip
  /-- A double colon stands for one zero group or more. -/
  | gap {before after : List Char} {front back : List UInt16} {zeros : Nat} {ip : IPv6}
    (hbefore : GroupsOrNone false before front) (hafter : GroupsOrNone true after back)
    (hzeros : 0 < zeros) (hgroups : ip.groups = front ++ List.replicate zeros 0 ++ back) :
    Literal (before ++ ':' :: ':' :: after) ip

theorem group?_eq_some_iff : group? cs = some g ↔ Group cs g := by
  constructor
  · intro h
    rw [group?] at h
    split at h
    · cases h
    next hlength =>
    obtain ⟨n, hn, rfl⟩ := Option.map_eq_some_iff.mp h
    have hnumeral := numeral?_eq_some_iff.mp hn
    -- -- four digits are not above the largest group
    have hlt : n < 2 ^ 16 := by
      have hvalue := hnumeral.lt_pow
      have hpow : 16 ^ cs.length ≤ 16 ^ 4 := Nat.pow_le_pow_right (by decide) (by omega)
      omega
    refine ⟨?_, by omega⟩
    rwa [UInt16.toNat_ofNat_of_lt' hlt]
  · intro h
    rw [group?, if_neg (Nat.not_lt.mpr h.length_le), numeral?_eq_some_iff.mpr h.numeral,
      Option.map_some, UInt16.ofNat_toNat]

namespace Group

theorem notMem {c : Char} (h : Group cs g) (hc : digitValue? 16 c = none) : c ∉ cs :=
  h.numeral.notMem hc

end Group

/-- Whether a piece is in dotted form is seen by its dots. -/
theorem groupsOfPieces?_singleton_iff :
    groupsOfPieces? dotted [cs] = some gs ↔
      (∃ g, Group cs g ∧ gs = [g]) ∨
        dotted = true ∧ ∃ ip : IPv4, cs = ip.text.toList ∧ gs = ip.toGroups := by
  have hdot : ∀ ip : IPv4, '.' ∈ ip.text.toList := by
    intro ip
    rw [IPv4.toList_text]
    exact List.mem_append_right _ List.mem_cons_self
  rw [groupsOfPieces?]
  split
  · next hform =>
    rw [Bool.and_eq_true, List.contains_iff_mem] at hform
    rw [Option.map_eq_some_iff]
    constructor
    · rintro ⟨ip, hip, rfl⟩
      exact .inr ⟨hform.1, ip, IPv4.ofChars?_eq_some_iff.mp hip, rfl⟩
    · rintro (⟨g, hg, -⟩ | ⟨-, ip, hcs, rfl⟩)
      · exact absurd hform.2 (hg.notMem (by decide))
      · exact ⟨ip, IPv4.ofChars?_eq_some_iff.mpr hcs, rfl⟩
  · next hform =>
    rw [Option.map_eq_some_iff]
    constructor
    · rintro ⟨g, hg, rfl⟩
      exact .inl ⟨g, group?_eq_some_iff.mp hg, rfl⟩
    · rintro (⟨g, hg, rfl⟩ | ⟨rfl, ip, rfl, -⟩)
      · exact ⟨g, group?_eq_some_iff.mpr hg, rfl⟩
      · simp [hdot ip] at hform

theorem groupsOfPieces?_cons_cons {piece next : List Char} {others : List (List Char)} :
    groupsOfPieces? dotted (piece :: next :: others) =
      (group? piece).bind fun g =>
        (groupsOfPieces? dotted (next :: others)).bind fun gs => some (g :: gs) :=
  rfl

namespace Groups

/-- Groups consist of hexadecimal digits, colons and dots. -/
theorem notMem {c : Char} (h : Groups dotted cs gs) (hc : digitValue? 16 c = none)
    (hcolon : c ≠ ':') (hdot : c ≠ '.') : c ∉ cs := by
  induction h with
  | group hg => exact hg.notMem hc
  | embedded ip _ => exact ip.notMem_text hc hdot
  | cons hg _ ih =>
    rw [List.mem_append, List.mem_cons, not_or, not_or]
    exact ⟨hg.notMem hc, hcolon, ih⟩

/-- Groups begin with a digit. -/
theorem exists_head (h : Groups dotted cs gs) : ∃ c rest, cs = c :: rest ∧ c ≠ ':' := by
  have hpiece : ∀ piece : List Char, piece ≠ [] → ':' ∉ piece → ∀ more,
      ∃ c rest, piece ++ more = c :: rest ∧ c ≠ ':' := by
    rintro (_ | ⟨c, rest⟩) hne hcolon more
    · exact absurd rfl hne
    · exact ⟨c, rest ++ more, rfl, fun hc => hcolon (hc ▸ List.mem_cons_self)⟩
  cases h with
  | group hg =>
    simpa using hpiece _ hg.numeral.ne_nil (hg.notMem (by decide)) []
  | embedded ip _ =>
    have hne : ip.text.toList ≠ [] := by
      rw [IPv4.toList_text]
      simp
    simpa using hpiece _ hne (ip.notMem_text (by decide) (by decide)) []
  | cons hg _ => exact hpiece _ hg.numeral.ne_nil (hg.notMem (by decide)) _

/-- More than two groups are not written without a colon. -/
theorem colon_mem (h : Groups dotted cs gs) (hlength : 2 < gs.length) : ':' ∈ cs := by
  cases h with
  | group hg => simp at hlength
  | embedded ip _ => simp [IPv4.toGroups] at hlength
  | cons _ _ => simp

end Groups

/-- **Groups are read piece by piece.** -/
theorem groupsOfPieces?_pieces_iff :
    groupsOfPieces? dotted (pieces ':' cs) = some gs ↔ Groups dotted cs gs := by
  induction hpieces : pieces ':' cs generalizing cs gs with
  | nil => exact absurd hpieces (pieces_ne_nil ':' cs)
  | cons piece rest ih =>
    cases rest with
    | nil =>
      obtain ⟨rfl, hcolon⟩ := pieces_eq_singleton_iff.mp hpieces
      rw [groupsOfPieces?_singleton_iff]
      constructor
      · rintro (⟨g, hg, rfl⟩ | ⟨hdotted, ip, rfl, rfl⟩)
        · exact .group hg
        · exact .embedded ip hdotted
      · intro h
        cases h with
        | group hg => exact .inl ⟨_, hg, rfl⟩
        | embedded ip hdotted => exact .inr ⟨hdotted, ip, rfl, rfl⟩
        | cons _ _ => simp at hcolon
    | cons next others =>
      obtain ⟨more, rfl, hcolon, hmore⟩ := pieces_eq_cons_cons_iff.mp hpieces
      rw [groupsOfPieces?_cons_cons]
      constructor
      · intro h
        obtain ⟨g, hg, h⟩ := Option.bind_eq_some_iff.mp h
        obtain ⟨gs, hgs, h⟩ := Option.bind_eq_some_iff.mp h
        cases h
        exact .cons (group?_eq_some_iff.mp hg) ((ih hmore).mp hgs)
      · intro h
        generalize hcs : piece ++ ':' :: more = cs at h
        have hmem : ':' ∈ cs := hcs ▸ List.mem_append_right _ List.mem_cons_self
        cases h with
        | group hg => exact absurd hmem (hg.notMem (by decide))
        | embedded ip _ => exact absurd hmem (ip.notMem_text (by decide) (by decide))
        | @cons cs' more' g gs hg hgs =>
          -- both texts are cut at their first colon
          have hfirst := splitFirst?_append hcolon more
          rw [hcs, splitFirst?_append (hg.notMem (by decide))] at hfirst
          obtain ⟨rfl, rfl⟩ := Prod.mk.inj (Option.some.inj hfirst)
          rw [group?_eq_some_iff.mpr hg, (ih hmore).mpr hgs]
          rfl

/-- **Groups are read as what they are**, and an empty text as none. -/
theorem groups?_eq_some_iff : groups? dotted cs = some gs ↔ GroupsOrNone dotted cs gs := by
  rw [groups?, GroupsOrNone]
  split
  · next hempty =>
    rw [List.isEmpty_iff] at hempty
    subst hempty
    constructor
    · intro h
      cases h
      exact .inl ⟨rfl, rfl⟩
    · rintro (⟨-, rfl⟩ | h)
      · rfl
      · obtain ⟨_, _, hcs, -⟩ := h.exists_head
        cases hcs
  · next hne =>
    rw [groupsOfPieces?_pieces_iff]
    constructor
    · exact .inr
    · rintro (⟨rfl, -⟩ | h)
      · exact absurd rfl hne
      · exact h

/-! ### The double colon

The reader looks for a double colon from the left.  There is none within groups, and none across
their end, so that it finds the one that is written. -/

theorem splitGap?_cons {c : Char} (h : cs.head? ≠ some ':' ∨ c ≠ ':') :
    splitGap? (c :: cs) = (splitGap? cs).map fun (before, after) => (c :: before, after) := by
  rw [splitGap?]
  rintro after rfl rfl
  simp at h

theorem splitGap?_append (h : ':' ∉ before) (more : List Char) :
    splitGap? (before ++ more) =
      (splitGap? more).map fun (front, after) => (before ++ front, after) := by
  induction before with
  | nil => simp
  | cons c before ih =>
    rw [List.mem_cons, not_or] at h
    rw [List.cons_append, splitGap?_cons (.inr (Ne.symm h.1)), ih h.2, Option.map_map]
    rfl

theorem eq_append_of_splitGap? (h : splitGap? cs = some (before, after)) :
    cs = before ++ ':' :: ':' :: after := by
  fun_induction splitGap? cs generalizing before with
  | case1 after' =>
    cases h
    rfl
  | case2 => cases h
  | case3 c cs _ ih =>
    obtain ⟨⟨front, after'⟩, hcs, heq⟩ := Option.map_eq_some_iff.mp h
    cases heq
    rw [ih hcs]
    rfl

/-- There is no double colon in groups, nor does one begin with their last character. -/
theorem Groups.splitGap?_append (h : Groups dotted cs gs) (more : List Char) :
    splitGap? (cs ++ more) = (splitGap? more).map fun (front, after) => (cs ++ front, after) := by
  induction h with
  | group hg => exact IPv6.splitGap?_append (hg.notMem (by decide)) more
  | embedded ip _ => exact IPv6.splitGap?_append (ip.notMem_text (by decide) (by decide)) more
  | @cons cs next g gs hg hnext ih =>
    have hhead : (next ++ more).head? ≠ some ':' := by
      obtain ⟨c, rest, rfl, hc⟩ := hnext.exists_head
      simpa using hc
    rw [List.append_assoc, List.cons_append, IPv6.splitGap?_append (hg.notMem (by decide)),
      splitGap?_cons (.inl hhead), ih, Option.map_map, Option.map_map]
    congr 1
    funext x
    simp

theorem Groups.splitGap?_eq_none (h : Groups dotted cs gs) : splitGap? cs = none := by
  simpa [splitGap?] using h.splitGap?_append []

theorem GroupsOrNone.splitGap?_append (h : GroupsOrNone dotted before gs) (after : List Char) :
    splitGap? (before ++ ':' :: ':' :: after) = some (before, after) := by
  rcases h with ⟨rfl, -⟩ | h
  · rfl
  · simp [h.splitGap?_append, splitGap?]

theorem ofGroups?_eq_some_iff : ofGroups? gs = some ip ↔ ip.groups = gs := by
  rw [ofGroups?]
  split
  · next hlength =>
    constructor
    · intro h
      cases h
      rfl
    · rintro rfl
      rfl
  · next hlength =>
    constructor
    · intro h
      cases h
    · rintro rfl
      exact absurd ip.length_eq hlength

/-- **A text is read as an address of eight groups** just if it is one of the texts of that
address. -/
theorem ofChars?_eq_some_iff : ofChars? cs = some ip ↔ Literal cs ip := by
  constructor
  · intro h
    rw [ofChars?] at h
    split at h
    · obtain ⟨gs, hgs, h⟩ := Option.bind_eq_some_iff.mp h
      obtain rfl := ofGroups?_eq_some_iff.mp h
      rcases groups?_eq_some_iff.mp hgs with ⟨-, hnone⟩ | hgs
      · exact absurd ip.length_eq (by simp [hnone])
      · exact .full hgs
    · next before after hgap =>
      obtain rfl := eq_append_of_splitGap? hgap
      obtain ⟨front, hfront, h⟩ := Option.bind_eq_some_iff.mp h
      obtain ⟨back, hback, h⟩ := Option.bind_eq_some_iff.mp h
      split at h
      · next hroom =>
        exact .gap (groups?_eq_some_iff.mp hfront) (groups?_eq_some_iff.mp hback) (by omega)
          (ofGroups?_eq_some_iff.mp h)
      · cases h
  · intro h
    cases h with
    | full h =>
      have hread : groups? true cs = some ip.groups := groups?_eq_some_iff.mpr (.inr h)
      rw [ofChars?, h.splitGap?_eq_none]
      dsimp only
      rw [hread]
      exact ofGroups?_eq_some_iff.mpr rfl
    | @gap before after front back zeros _ hbefore hafter hzeros hgroups =>
      have hlength : front.length + zeros + back.length = 8 := by
        have := ip.length_eq
        rw [hgroups] at this
        simpa [Nat.add_assoc] using this
      have hrest : 8 - front.length - back.length = zeros := by omega
      rw [ofChars?, hbefore.splitGap?_append]
      dsimp only
      rw [groups?_eq_some_iff.mpr hbefore, groups?_eq_some_iff.mpr hafter]
      dsimp only [Option.bind_eq_bind, Option.bind_some]
      rw [if_pos (by omega), hrest]
      exact ofGroups?_eq_some_iff.mpr hgroups

namespace Literal

/-- There is a colon in every text of eight groups. -/
theorem colon_mem (h : Literal cs ip) : ':' ∈ cs := by
  cases h with
  | full h => exact h.colon_mem (by rw [ip.length_eq]; decide)
  | gap => simp

theorem notMem {c : Char} (h : Literal cs ip) (hc : digitValue? 16 c = none) (hcolon : c ≠ ':')
    (hdot : c ≠ '.') : c ∉ cs := by
  have hgroups : ∀ {dotted : Bool} {cs : List Char} {gs : List UInt16},
      GroupsOrNone dotted cs gs → c ∉ cs := by
    rintro dotted cs gs (⟨rfl, -⟩ | h)
    · exact List.not_mem_nil
    · exact h.notMem hc hcolon hdot
  cases h with
  | full h => exact h.notMem hc hcolon hdot
  | gap hbefore hafter _ _ => simp [hgroups hbefore, hgroups hafter, hcolon]

end Literal

end IPv6

/-! ## Ports, scopes, and addresses of either family

Unlike an octet, a port or a scope may have zeros in front. -/

namespace SocketAddress

variable {cs : List Char} {ip : IPAddress}

theorem port?_eq_some_iff {port : UInt16} : port? cs = some port ↔ Numeral 10 cs port.toNat := by
  rw [port?, Option.map_eq_some_iff]
  constructor
  · rintro ⟨n, hn, rfl⟩
    obtain ⟨hread, hsmall⟩ := Option.filter_eq_some_iff.mp hn
    rw [UInt16.toNat_ofNat_of_lt' (of_decide_eq_true hsmall)]
    exact numeral?_eq_some_iff.mp hread
  · intro h
    exact ⟨port.toNat, Option.filter_eq_some_iff.mpr
      ⟨numeral?_eq_some_iff.mpr h, decide_eq_true port.toNat_lt⟩, UInt16.ofNat_toNat⟩

theorem scope?_eq_some_iff {scope : UInt32} :
    scope? cs = some scope ↔ Numeral 10 cs scope.toNat := by
  rw [scope?, Option.map_eq_some_iff]
  constructor
  · rintro ⟨n, hn, rfl⟩
    obtain ⟨hread, hsmall⟩ := Option.filter_eq_some_iff.mp hn
    rw [UInt32.toNat_ofNat_of_lt' (of_decide_eq_true hsmall)]
    exact numeral?_eq_some_iff.mp hread
  · intro h
    exact ⟨scope.toNat, Option.filter_eq_some_iff.mpr
      ⟨numeral?_eq_some_iff.mpr h, decide_eq_true scope.toNat_lt⟩, UInt32.ofNat_toNat⟩

end SocketAddress

namespace IPAddress

/-- The texts of an address. -/
inductive Literal : List Char → IPAddress → Prop where
  /-- Four octets. -/
  | v4 (ip : IPv4) : Literal ip.text.toList (.v4 ip)
  /-- Eight groups, in no scope. -/
  | v6 {cs : List Char} {ip : IPv6} (h : IPv6.Literal cs ip) : Literal cs (.v6 ip 0)
  /-- Eight groups, and a scope behind a percent sign. -/
  | inScope {cs digits : List Char} {ip : IPv6} {scope : UInt32} (h : IPv6.Literal cs ip)
    (hscope : Numeral 10 digits scope.toNat) : Literal (cs ++ '%' :: digits) (.v6 ip scope)

namespace Literal

variable {cs : List Char} {ip : IPAddress}

/-- **The family is seen by the colons.** -/
theorem isV6_iff (h : Literal cs ip) : ip.isV6 = true ↔ ':' ∈ cs := by
  cases h with
  | v4 ip => simp [isV6, ip.notMem_text (c := ':') (by decide) (by decide)]
  | v6 h => simp [isV6, h.colon_mem]
  | inScope h _ => simp [isV6, h.colon_mem]

/-- Besides digits there are dots, colons and percent signs. -/
theorem notMem {c : Char} (h : Literal cs ip) (hc : digitValue? 16 c = none) (hcolon : c ≠ ':')
    (hdot : c ≠ '.') (hpercent : c ≠ '%') : c ∉ cs := by
  cases h with
  | v4 ip => exact ip.notMem_text hc hdot
  | v6 h => exact h.notMem hc hcolon hdot
  | inScope h hscope =>
    have hdigits := hscope.notMem (digitValue?_eq_none (by decide) hc)
    simp [h.notMem hc hcolon hdot, hdigits, hpercent]

end Literal

end IPAddress

/-- **Eight groups are read with a scope or without**, and nothing else is. -/
theorem SocketAddress.scopedV6?_eq_some_iff {cs : List Char} {ip : IPAddress} :
    scopedV6? cs = some ip ↔ IPAddress.Literal cs ip ∧ ip.isV6 = true := by
  constructor
  · intro h
    rw [scopedV6?] at h
    split at h
    · obtain ⟨ip, hip, rfl⟩ := Option.map_eq_some_iff.mp h
      exact ⟨.v6 (IPv6.ofChars?_eq_some_iff.mp hip), rfl⟩
    · next groups digits hsplit =>
      obtain ⟨rfl, -⟩ := splitFirst?_eq_some_iff.mp hsplit
      obtain ⟨ip, hip, h⟩ := Option.bind_eq_some_iff.mp h
      obtain ⟨scope, hscope, h⟩ := Option.bind_eq_some_iff.mp h
      cases h
      exact ⟨.inScope (IPv6.ofChars?_eq_some_iff.mp hip) (scope?_eq_some_iff.mp hscope), rfl⟩
  · rintro ⟨h, hv6⟩
    cases h with
    | v4 ip => cases hv6
    | v6 h =>
      have hnone := splitFirst?_eq_none_iff.mpr
        (h.notMem (c := '%') (by decide) (by decide) (by decide))
      rw [scopedV6?, hnone]
      dsimp only
      rw [IPv6.ofChars?_eq_some_iff.mpr h, Option.map_some]
    | inScope h hscope =>
      have hsplit := splitFirst?_append (h.notMem (c := '%') (by decide) (by decide) (by decide))
      rw [scopedV6?, hsplit]
      dsimp only
      rw [IPv6.ofChars?_eq_some_iff.mpr h, scope?_eq_some_iff.mpr hscope]
      rfl

end ChatLobby
