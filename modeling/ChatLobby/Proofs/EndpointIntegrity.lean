import ChatLobby.Proofs.AddressGrammar
import ChatLobby.Server

/-!
# What servers listen on

The address and the port that settings name are put together into one text, and that text is read as
a whole.  So an address could bring brackets or a port of its own along; but it cannot pass with
them.

* `SocketAddress.ofChars?_bracketed`, `SocketAddress.ofChars?_plain`: together with a port, a text
  is read as what it is by itself, and the port as that port.
* `Settings.endpoint_integrity`: settings name a socket address just if their address is one of
  the texts of an address, and it is that address with their port; a server listens on no other.
-/

namespace ChatLobby

open Text

namespace SocketAddress

variable {cs : List Char}

/-! ## Address and port in one text

The reader of socket addresses decides from the first character what form there is.  So it has to be
shown for either form that the port which was put behind the text is the port that is read, whatever
the text is. -/

theorem port?_decimal (port : UInt16) : port? (decimal port.toNat) = some port :=
  port?_eq_some_iff.mpr (numeral_toDigits (by decide) (by decide) _)

theorem port?_eq_none {c : Char} (hc : digitValue? 10 c = none) (hmem : c ∈ cs) :
    port? cs = none := by
  rw [Option.eq_none_iff_forall_ne_some]
  intro port h
  exact (port?_eq_some_iff.mp h).notMem hc hmem

theorem scopedV6?_eq_none (h : ':' ∉ cs) : scopedV6? cs = none := by
  rw [Option.eq_none_iff_forall_ne_some]
  intro ip hread
  obtain ⟨hliteral, hv6⟩ := scopedV6?_eq_some_iff.mp hread
  exact h (hliteral.isV6_iff.mp hv6)

/-- **A text in brackets is read by itself**, also if it closes them early. -/
theorem ofChars?_bracketed (cs : List Char) (port : UInt16) :
    ofChars? ('[' :: (cs ++ ']' :: ':' :: decimal port.toNat)) =
      (scopedV6? cs).map fun ip => { ip, port } := by
  rw [ofChars?]
  cases hsplit : splitFirst? ']' cs with
  | some parts =>
    obtain ⟨before, after⟩ := parts
    obtain ⟨rfl, hbefore⟩ := splitFirst?_eq_some_iff.mp hsplit
    have hnone : scopedV6? (before ++ ']' :: after) = none := by
      rw [Option.eq_none_iff_forall_ne_some]
      intro ip hread
      have hliteral := (scopedV6?_eq_some_iff.mp hread).1
      exact hliteral.notMem (c := ']') (by decide) (by decide) (by decide) (by decide) (by simp)
    -- the second bracket that closes is left over for the port
    rw [hnone, List.append_assoc, List.cons_append, splitFirst?_append hbefore]
    rcases after with _ | ⟨c, after⟩
    · rfl
    · have hport : port? (after ++ ']' :: ':' :: decimal port.toNat) = none :=
        port?_eq_none (c := ']') (by decide) (by simp)
      by_cases hc : c = ':'
      · subst hc
        simp [hport]
      · simp [hc]
  | none =>
    rw [splitFirst?_append (splitFirst?_eq_none_iff.mp hsplit)]
    simp only [Option.bind_eq_bind, Option.bind_some, port?_decimal]
    cases scopedV6? cs <;> rfl

/-- **A text without colons is read by itself**, also if it has brackets of its own. -/
theorem ofChars?_plain (h : ':' ∉ cs) (port : UInt16) :
    ofChars? (cs ++ ':' :: decimal port.toNat) =
      (IPv4.ofChars? cs).map fun ip => { ip := .v4 ip, port } := by
  -- -- an opening bracket sends the reader the other way, where it finds no address either
  by_cases hopen : cs.head? = some '['
  · obtain ⟨rest, rfl⟩ := List.head?_eq_some_iff.mp hopen
    rw [List.mem_cons, not_or] at h
    have hnone : IPv4.ofChars? ('[' :: rest) = none := by
      rw [Option.eq_none_iff_forall_ne_some]
      intro ip hread
      exact ip.notMem_text (c := '[') (by decide) (by decide)
        (IPv4.ofChars?_eq_some_iff.mp hread ▸ List.mem_cons_self)
    rw [hnone, List.cons_append, ofChars?]
    cases hsplit : splitFirst? ']' rest with
    | some parts =>
      -- there are no groups within the brackets, for want of colons
      obtain ⟨before, after⟩ := parts
      obtain ⟨rfl, hbefore⟩ := splitFirst?_eq_some_iff.mp hsplit
      have hgroups : scopedV6? before = none :=
        scopedV6?_eq_none fun hmem => h.2 (List.mem_append_left _ hmem)
      rw [List.append_assoc, List.cons_append, splitFirst?_append hbefore]
      dsimp only [Option.bind_eq_bind, Option.bind_some]
      split
      · rw [hgroups]
        rfl
      · rfl
    | none =>
      have hclose := notMem_decimal (c := ']') (by decide) port.toNat
      have hnever : ']' ∉ rest ++ ':' :: decimal port.toNat := by
        simp [splitFirst?_eq_none_iff.mp hsplit, hclose]
      rw [splitFirst?_eq_none_iff.mpr hnever]
      rfl
  · rw [ofChars?]
    · rw [splitFirst?_append h]
      simp only [Option.bind_eq_bind, Option.bind_some, port?_decimal]
      cases IPv4.ofChars? cs <;> rfl
    · intro rest hcs
      cases cs with
      | nil => simp at hcs
      | cons c cs => simp_all

end SocketAddress

namespace IPAddress

variable {cs : List Char} {ip : IPAddress}

/-! ## Settings -/

/-- The colons say which of the two readers is the right one. -/
theorem literal_iff_of_colon (h : ':' ∈ cs) :
    Literal cs ip ↔ SocketAddress.scopedV6? cs = some ip := by
  rw [SocketAddress.scopedV6?_eq_some_iff, iff_self_and]
  exact fun hliteral => hliteral.isV6_iff.mpr h

/-- Without colons it is the reader of four octets. -/
theorem literal_iff_of_notMem_colon (h : ':' ∉ cs) :
    Literal cs ip ↔ ∃ four, IPv4.ofChars? cs = some four ∧ ip = .v4 four := by
  constructor
  · intro hliteral
    have hv4 := hliteral.isV6_iff.not.mpr h
    cases hliteral with
    | v4 four => exact ⟨four, IPv4.ofChars?_eq_some_iff.mpr rfl, rfl⟩
    | v6 _ => exact absurd rfl hv4
    | inScope _ _ => exact absurd rfl hv4
  · rintro ⟨four, hfour, rfl⟩
    rw [IPv4.ofChars?_eq_some_iff.mp hfour]
    exact .v4 four

end IPAddress

namespace ServerSettings

variable {s : ServerSettings} {address : SocketAddress}

theorem toList_endpoint (s : ServerSettings) :
    s.endpoint.toList =
      if ':' ∈ s.bindAddress.toList then
        '[' :: (s.bindAddress.toList ++ ']' :: ':' :: decimal s.port.toNat)
      else s.bindAddress.toList ++ ':' :: decimal s.port.toNat := by
  have hport : (toString s.port).toList = decimal s.port.toNat := Nat.toList_repr
  have hopen : (toString "[").toList = ['['] := rfl
  have hclose : (toString "]:").toList = [']', ':'] := rfl
  have hcolon : (toString ":").toList = [':'] := rfl
  have htext : (toString s.bindAddress) = s.bindAddress := rfl
  simp only [endpoint, List.contains_iff_mem]
  split <;> simp [hport, hopen, hclose, hcolon, htext]

/-- **The endpoint denotes what the address and the port say**, each by itself. -/
theorem ofText?_endpoint_iff :
    SocketAddress.ofText? s.endpoint = some address ↔
      IPAddress.Literal s.bindAddress.toList address.ip ∧ address.port = s.port := by
  rw [SocketAddress.ofText?, toList_endpoint]
  split
  · next hcolon =>
    rw [SocketAddress.ofChars?_bracketed, Option.map_eq_some_iff,
      IPAddress.literal_iff_of_colon hcolon]
    constructor
    · rintro ⟨ip, hip, rfl⟩
      exact ⟨hip, rfl⟩
    · rintro ⟨hip, hport⟩
      exact ⟨address.ip, hip, by rw [← hport]⟩
  · next hcolon =>
    rw [SocketAddress.ofChars?_plain hcolon, Option.map_eq_some_iff,
      IPAddress.literal_iff_of_notMem_colon hcolon]
    constructor
    · rintro ⟨four, hfour, rfl⟩
      exact ⟨⟨four, hfour, rfl⟩, rfl⟩
    · rintro ⟨⟨four, hfour, hip⟩, hport⟩
      exact ⟨four, hfour, by rw [← hip, ← hport]⟩

theorem socketAddress_eq_ok_iff :
    s.socketAddress = .ok address ↔
      IPAddress.Literal s.bindAddress.toList address.ip ∧ address.port = s.port := by
  rw [← ofText?_endpoint_iff, socketAddress]
  cases SocketAddress.ofText? s.endpoint <;> simp

/-- If the address is none, there is one error, and it tells the endpoint. -/
theorem socketAddress_eq_error_iff {cause : SettingsError} :
    s.socketAddress = .error cause ↔
      cause = .invalidEndpoint s.endpoint ∧ ∀ ip, ¬ IPAddress.Literal s.bindAddress.toList ip := by
  have hnone : SocketAddress.ofText? s.endpoint = none ↔
      ∀ ip, ¬ IPAddress.Literal s.bindAddress.toList ip := by
    rw [Option.eq_none_iff_forall_ne_some]
    constructor
    · intro h ip hip
      exact h ⟨ip, s.port⟩ (ofText?_endpoint_iff.mpr ⟨hip, rfl⟩)
    · intro h address haddress
      exact h address.ip (ofText?_endpoint_iff.mp haddress).1
  rw [← hnone, socketAddress]
  cases SocketAddress.ofText? s.endpoint <;> simp [eq_comm]

end ServerSettings

/-- A server has the address that the host lets it listen on, and it asks the host for the one that
its settings name. -/
theorem Server.listen_of_bind {host : Host} {settings : Settings} {server : Server}
    (h : Server.bind host settings = .ok server) :
    ∃ address, settings.server.socketAddress = .ok address ∧
      host.listen address = .ok server.address := by
  rw [Server.bind] at h
  cases haddress : settings.server.socketAddress with
  | error cause =>
    rw [haddress] at h
    cases h
  | ok address =>
    rw [haddress] at h
    refine ⟨address, rfl, ?_⟩
    change (Except.mapError _ (host.bind address) >>= _) = _ at h
    rw [Host.bind] at h
    cases hbound : host.listen address with
    | error cause =>
      rw [hbound] at h
      cases h
    | ok bound =>
      rw [hbound] at h
      cases h
      rfl

/-- **No address brings a port or brackets of its own along.**  Settings name a socket address just
if their address is, by itself, one of the texts of an address.  It is that address then, with their
port, and its family is seen by the colons.  Otherwise there is an error that tells the endpoint.
And a server asks to listen on nothing else. -/
theorem Settings.endpoint_integrity (settings : Settings) :
    (∀ address, settings.server.socketAddress = .ok address ↔
        IPAddress.Literal settings.server.bindAddress.toList address.ip ∧
          address.port = settings.server.port) ∧
      (∀ address, settings.server.socketAddress = .ok address →
        (address.ip.isV6 = true ↔ ':' ∈ settings.server.bindAddress.toList)) ∧
      (∀ cause, settings.server.socketAddress = .error cause ↔
        cause = .invalidEndpoint settings.server.endpoint ∧
          ∀ ip, ¬ IPAddress.Literal settings.server.bindAddress.toList ip) ∧
      ∀ host server, Server.bind host settings = .ok server →
        ∃ ip, IPAddress.Literal settings.server.bindAddress.toList ip ∧
          host.listen { ip, port := settings.server.port } = .ok server.address := by
  refine ⟨fun _ => ServerSettings.socketAddress_eq_ok_iff, ?_,
    fun _ => ServerSettings.socketAddress_eq_error_iff, ?_⟩
  · intro address h
    exact (ServerSettings.socketAddress_eq_ok_iff.mp h).1.isV6_iff
  · intro host server h
    obtain ⟨address, haddress, hlisten⟩ := Server.listen_of_bind h
    obtain ⟨hliteral, hport⟩ := ServerSettings.socketAddress_eq_ok_iff.mp haddress
    exact ⟨address.ip, hliteral, hport ▸ hlisten⟩

example : ({ bindAddress := "::1]:80%", port := 7 } : ServerSettings).socketAddress =
    .error (.invalidEndpoint "[::1]:80%]:7") := by
  decide +kernel

end ChatLobby
