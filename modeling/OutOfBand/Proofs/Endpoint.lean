import OutOfBand.Proofs.Url.Authority

/-! # Where a base URL leads

The host of an endpoint is put between a scheme and a port, and the text is read as a URL. As long as the host holds none
of four characters that end the host of a URL early, the base URL is the host and the port of the endpoint and nothing
else. The slash, which would be a fifth, no endpoint lets into its host.
-/
namespace OutOfBand

/-! ## Behind a scheme -/

open Url

namespace Protocol

variable (protocol : Protocol)

theorem scheme_isSpecial : isSpecial protocol.scheme.toList = true ∧ isFile protocol.scheme.toList = false := by
  cases protocol <;> decide

theorem hasDefaultPort : (defaultPort? protocol.scheme.toList).isSome = true := by
  cases protocol <;> decide

theorem front_isSolid : (protocol.scheme.toList ++ "://".toList).all isSolid = true := by
  cases protocol <;> decide

theorem scheme?_front (text : List Char) :
    scheme? (protocol.scheme.toList ++ "://".toList ++ text) = some (protocol.scheme.toList, '/' :: '/' :: text) := by
  obtain ⟨scheme, hscheme, hchars, _⟩ := protocol.scheme_toList
  have hlower : protocol.scheme.toList.map Text.asciiLower = protocol.scheme.toList := by
    cases protocol <;> decide
  have hread := scheme?_append (by decide) hchars ('/' :: '/' :: text)
  rw [← hscheme, hlower] at hread
  rw [← hread]
  simp

theorem significant_front (host : List Char) (port : Nat) :
    significant (protocol.scheme.toList ++ "://".toList ++ hostWithPort host port) =
      protocol.scheme.toList ++ "://".toList ++ hostWithPort (host.filter (!isInnerBlank ·)) port := by
  have hsolid := protocol.front_isSolid
  obtain ⟨scheme, hscheme, _⟩ := protocol.scheme_toList
  rw [hscheme, List.cons_append] at hsolid ⊢
  rw [significant_append hsolid, significant_hostWithPort]

end Protocol

/-- Without an early end, host and port are all that is read behind the scheme. -/
theorem readChars_hostWithPort (protocol : Protocol) {host : List Char} {port : Nat} {url : Url}
    (h : ∀ c ∈ '/' :: hostEnds, c ∉ host)
    (hread : readChars none (protocol.scheme.toList ++ "://".toList ++ hostWithPort host port) = .ok url) :
    ∃ authority, authorityOf protocol.scheme.toList (hostWithPort (host.filter (!isInnerBlank ·)) port) = .ok authority ∧
      url = ⟨protocol.scheme.toList, some authority, .segments [[]], none, none⟩ := by
  obtain ⟨hspecial, hfile⟩ := protocol.scheme_isSpecial
  have hclean : ∀ c ∈ '/' :: hostEnds, c ∉ hostWithPort (host.filter (!isInnerBlank ·)) port := by
    have hsigns : ∀ c ∈ '/' :: hostEnds, c.isDigit = false ∧ c ≠ ':' := forall_mem_of_all (by decide)
    exact fun c hc => notMem_hostWithPort (fun hmem => h c hc (List.mem_filter.mp hmem).1) (hsigns c hc).1 (hsigns c hc).2 port
  have hslash : ∀ c ∈ hostWithPort (host.filter (!isInnerBlank ·)) port, isSlash true c = false := by
    intro c hc
    rw [Bool.eq_false_iff]
    intro hslash
    simp only [isSlash, Bool.true_and, Bool.or_eq_true, beq_iff_eq] at hslash
    rcases hslash with rfl | rfl
    · exact hclean '/' (by decide) hc
    · exact hclean '\\' (by decide) hc
  have hwhole : ∀ c ∈ ['?', '#'],
      c ∉ protocol.scheme.toList ++ "://".toList ++ hostWithPort (host.filter (!isInnerBlank ·)) port := by
    have hsigns : ∀ c ∈ ['?', '#'], isSolid c = false ∧ c ∈ '/' :: hostEnds := forall_mem_of_all (by decide)
    intro c hc hmem
    obtain ⟨hloose, hends⟩ := hsigns c hc
    rcases List.mem_append.mp hmem with hfront | hbehind
    · rw [List.all_eq_true.mp protocol.front_isSolid c hfront] at hloose
      cases hloose
    · exact hclean c hends hbehind
  simp only [readChars, protocol.significant_front, cut_eq_self (hwhole '#' (by decide)), cut_eq_self (hwhole '?' (by decide)),
    protocol.scheme?_front, withScheme, hspecial, hfile, ↓reduceIte, Bool.false_eq_true, Option.map_none] at hread
  rw [List.dropWhile_cons_of_pos (by decide), List.dropWhile_cons_of_pos (by decide), Text.dropWhile_eq_self hslash] at hread
  exact behindSlashes_eq_ok hspecial hslash hread

/-! ## Hosts of endpoints -/

namespace Endpoint

/-- No endpoint has a slash in its host. -/
theorem slash_notMem_of_normalizeHost {host name : String} (h : normalizeHost host = .ok name) : '/' ∉ name.toList := by
  simp only [normalizeHost] at h
  split at h
  · cases h
  split at h
  · cases h
  case isFalse hslash =>
    have hnone : '/' ∉ (Text.trim host).toList := by simpa using hslash
    split at h
    case h_1 pieces _ =>
      rw [← Except.ok.inj h, String.toList_ofList, List.mem_cons, List.mem_append, not_or, not_or]
      exact ⟨by decide, fun hmem => hnone ((List.dropWhile_suffix _).subset (mem_of_mem_dropEndWhile hmem)), by decide⟩
    case h_2 =>
      rw [← Except.ok.inj h]
      exact hnone

/-- An address of version 6 is put between brackets, if it is not there already. -/
theorem normalizeHost_address {host name : String} {address : List Char} {pieces : List Nat}
    (haddress : ipv6? address = some pieces)
    (hhost : (Text.trim host).toList = address ∨ (Text.trim host).toList = '[' :: (address ++ [']']))
    (h : normalizeHost host = .ok name) : name.toList = '[' :: (address ++ [']']) := by
  have hbracket : ∀ c ∈ address, c ≠ '[' ∧ c ≠ ']' := by
    have hnone : ¬ InAddress '[' ∧ ¬ InAddress ']' := by
      unfold InAddress
      decide
    intro c hc
    constructor
    · rintro rfl
      exact hnone.1 (inAddress_of_ipv6? haddress _ hc)
    · rintro rfl
      exact hnone.2 (inAddress_of_ipv6? haddress _ hc)
  have hopen : ∀ c ∈ address ++ [']'], (c == '[') = false := by
    simpa [or_imp, forall_and] using fun c hc => (hbracket c hc).1
  have hfront : address.dropWhile (· == '[') = address :=
    Text.dropWhile_eq_self fun c hc => hopen c (List.mem_append_left _ hc)
  have hback : Text.dropEndWhile (· == ']') address = address :=
    Text.dropEndWhile_eq_self fun c hc => by simpa using (hbracket c hc).2
  have hbare : Text.dropEndWhile (· == ']') ((Text.trim host).toList.dropWhile (· == '[')) = address := by
    rcases hhost with hhost | hhost
    · rw [hhost, hfront, hback]
    · rw [hhost, List.dropWhile_cons_of_pos (by decide), Text.dropWhile_eq_self hopen, Text.dropEndWhile, List.reverse_append,
        List.reverse_singleton, List.singleton_append, List.dropWhile_cons_of_pos (by decide), ← Text.dropEndWhile, hback]
  simp only [normalizeHost, hbare, haddress] at h
  split at h
  · cases h
  split at h
  · cases h
  · rw [← Except.ok.inj h, String.toList_ofList]

theorem new_eq_ok {host : String} {port timeout : Nat} {tls : TlsMode} {e : Endpoint}
    (h : Endpoint.new host port tls timeout = .ok e) : normalizeHost host = .ok e.host ∧ e.port = port := by
  obtain ⟨name, hname, h⟩ := bind_eq_ok h
  split at h
  · cases h
  split at h
  · cases h
  · cases h
    exact ⟨hname, rfl⟩

/-! ## Base URLs -/

/-- A host as it is read: tabs and line breaks do not count. -/
def readHost (e : Endpoint) : List Char := e.host.toList.filter (!isInnerBlank ·)

theorem mem_readHost {e : Endpoint} {c : Char} : c ∈ e.readHost ↔ c ∈ e.host.toList ∧ isInnerBlank c = false := by
  rw [readHost, List.mem_filter, Bool.not_eq_true']

theorem readHost_eq_self {e : Endpoint} (h : ∀ c ∈ innerBlanks, c ∉ e.host.toList) : e.readHost = e.host.toList := by
  rw [readHost, List.filter_eq_self]
  intro c hc
  rw [Bool.not_eq_true', Bool.eq_false_iff]
  intro hblank
  have hmem : c ∈ innerBlanks := by simpa [isInnerBlank, innerBlanks, or_assoc] using hblank
  exact h c hmem hc

end Endpoint

/-- The URL is made of a protocol, a host in the form of URLs and a port, and says nothing more. -/
structure Url.Denotes (url : Url) (protocol : Protocol) (host : List Char) (port : Nat) : Prop where
  scheme : url.scheme = protocol.scheme.toList
  host : ∃ form, Host.ofChars host = .ok form ∧ url.host? = some form
  port : url.effectivePort? = some port
  noUserInfo : url.withoutUserInfo = url
  path : url.path.chars = ['/']
  noQuery : url.query = none
  noFragment : url.fragment = none

theorem Url.Denotes.notMem {url : Url} {protocol : Protocol} {host : List Char} {port : Nat}
    (h : url.Denotes protocol host port) : ∀ c ∈ hostEnds ++ innerBlanks, c ∉ host := by
  obtain ⟨form, hform, _⟩ := h.host
  exact Host.notMem_of_ofChars hform

namespace Endpoint

theorem denotes_readHost {e : Endpoint} {url : Url} (hslash : '/' ∉ e.host.toList)
    (hends : ∀ c ∈ hostEnds, c ∉ e.host.toList) (h : e.baseUrl = .ok url) : url.Denotes e.protocol e.readHost e.port := by
  obtain ⟨authority, hauthority, rfl⟩ :=
    readChars_hostWithPort e.protocol (List.forall_mem_cons.mpr ⟨hslash, hends⟩) (readChars_of_baseUrl h)
  have hat : '@' ∉ e.readHost := fun hmem => hends '@' (by decide) (mem_readHost.mp hmem).1
  obtain ⟨form, shown, hform, hport, rfl⟩ := authorityOf_hostWithPort e.protocol.hasDefaultPort hat hauthority
  exact ⟨rfl, ⟨form, hform, rfl⟩, hport, rfl, rfl, rfl, rfl⟩

/-- The base URL of an endpoint denotes its host and port just if the host holds no sign that ends it early. Tabs and line
breaks within the host do not count. An address of version 6, in brackets or not, is read as that address. -/
theorem baseUrl_denotes_iff {host : String} {port timeout : Nat} {tls : TlsMode} {e : Endpoint} {protocol : Protocol} {url : Url}
    (hnew : Endpoint.new host port tls timeout = .ok e) (hurl : { e with protocol := protocol }.baseUrl = .ok url) :
    (url.Denotes protocol e.readHost port ↔ ∀ c ∈ hostEnds, c ∉ e.host.toList) ∧
      (url.Denotes protocol e.host.toList port ↔ ∀ c ∈ hostEnds ++ innerBlanks, c ∉ e.host.toList) ∧
      ∀ address pieces, ipv6? address = some pieces →
        (Text.trim host).toList = address ∨ (Text.trim host).toList = '[' :: (address ++ [']']) →
        url.Denotes protocol e.host.toList port ∧ url.host? = some (.ipv6 pieces) := by
  obtain ⟨hname, rfl⟩ := new_eq_ok hnew
  have hslash := slash_notMem_of_normalizeHost hname
  have hread : url.Denotes protocol e.readHost e.port ↔ ∀ c ∈ hostEnds, c ∉ e.host.toList := by
    refine ⟨fun h c hc hmem => ?_, fun h => denotes_readHost (e := { e with protocol := protocol }) hslash h hurl⟩
    have hcounts : ∀ c ∈ hostEnds, isInnerBlank c = false := forall_mem_of_all (by decide)
    exact h.notMem c (List.mem_append_left _ hc) (mem_readHost.mpr ⟨hmem, hcounts c hc⟩)
  have hplain : url.Denotes protocol e.host.toList e.port ↔ ∀ c ∈ hostEnds ++ innerBlanks, c ∉ e.host.toList := by
    refine ⟨fun h => h.notMem, fun h => ?_⟩
    rw [← readHost_eq_self fun c hc => h c (List.mem_append_right _ hc)]
    exact hread.mpr fun c hc => h c (List.mem_append_left _ hc)
  refine ⟨hread, hplain, fun address pieces haddress hhost => ?_⟩
  have hform := Host.bracketed_of_ipv6? haddress
  rw [← normalizeHost_address haddress hhost hname] at hform
  have hdenotes := hplain.mpr (Host.notMem_of_ofChars hform)
  obtain ⟨form, hsame, hurlHost⟩ := hdenotes.host
  cases hform.symm.trans hsame
  exact ⟨hdenotes, hurlHost⟩

theorem baseUrl_denotes_address :
    let e : Endpoint := ⟨"[2001:DB8::1]", 8443, .https, .system, 30000⟩
    let authority : Authority := ⟨[], none, .ipv6 [0x2001, 0xDB8, 0, 0, 0, 0, 0, 1], some 8443⟩
    let url : Url := ⟨"http".toList, some authority, .segments [[]], none, none⟩
    Endpoint.new " 2001:DB8::1 " 8443 .system 30000 = .ok e ∧ { e with protocol := .http }.baseUrl = .ok url ∧
      url.Denotes .http e.host.toList 8443 ∧ url.host? = some (.ipv6 [0x2001, 0xDB8, 0, 0, 0, 0, 0, 1]) := by
  intro e authority url
  have hnew : Endpoint.new " 2001:DB8::1 " 8443 .system 30000 = .ok e := eq_ok_of_toOption (by decide +kernel)
  have hurl : { e with protocol := .http }.baseUrl = .ok url := eq_ok_of_toOption (by decide +kernel)
  obtain ⟨_, _, haddress⟩ := baseUrl_denotes_iff hnew hurl
  obtain ⟨hdenotes, hhost⟩ := haddress "2001:DB8::1".toList [0x2001, 0xDB8, 0, 0, 0, 0, 0, 1] (by decide +kernel)
    (Or.inl (by decide +kernel))
  exact ⟨hnew, hurl, hdenotes, hhost⟩

/-- A host with a number sign is accepted, and the port that was asked for ends up in a fragment. -/
theorem baseUrl_ends_at_fragment :
    ∃ e url, Endpoint.new "192.168.0.1#idrac" 8443 .system 30000 = .ok e ∧ e.baseUrl = .ok url ∧
      url.effectivePort? = some 443 ∧ url.fragment = some "idrac:8443".toList ∧
      ¬ url.Denotes .https e.readHost 8443 ∧ ¬ url.Denotes .https e.host.toList 8443 := by
  refine ⟨⟨"192.168.0.1#idrac", 8443, .https, .system, 30000⟩,
    ⟨"https".toList, some ⟨[], none, .ipv4 0xC0A80001, none⟩, .segments [[]], none, some "idrac:8443".toList⟩,
    eq_ok_of_toOption (by decide +kernel), eq_ok_of_toOption (by decide +kernel), by decide +kernel, rfl, ?_, ?_⟩
  · exact fun h => absurd h.noFragment (by simp)
  · exact fun h => absurd h.noFragment (by simp)

end Endpoint

end OutOfBand
