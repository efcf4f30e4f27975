import IronicAnsible.Driver.Playbook

/-!
# The callback address

In callback mode the node's address comes from the callback URL the ramdisk recorded in
`driver_internal_info['agent_url']`, as `urlparse(url).netloc.split(':')[0]`.

For a URL `scheme://host[:port][/path]` whose host is a DNS name or an IPv4 address this is
exactly the host. Two cases are not. With no callback recorded, the lookup defaults to `''`
and the address is the empty string; nothing raises. For a bracketed IPv6 literal the cut at
the first `:` keeps a piece of the literal: `[fd00` for `http://[fd00::1]:9999`.
-/

namespace IronicAnsible.Heartbeat

open UrlParse

/-- A scheme `urlsplit` recognises: non-empty, of scheme characters. -/
def IsScheme (s : String) : Prop := s.toList ≠ [] ∧ ∀ c ∈ s.toList, isSchemeChar c

/-- A DNS name or an IPv4 address: non-empty, of ASCII letters, digits, `-` and `.`. -/
def IsHostName (h : String) : Prop :=
  h.toList ≠ [] ∧ ∀ c ∈ h.toList, c.isAlphanum ∨ c = '-' ∨ c = '.'

/-- A port: decimal digits. -/
def IsPort (p : String) : Prop := ∀ c ∈ p.toList, c.isDigit

/-- A path: empty, or starting with `/`. -/
def IsPath (p : String) : Prop := p.toList = [] ∨ p.toList.head? = some '/'

/-- A node whose `driver_internal_info` is `dii`, everything else empty. -/
def nodeWithInternalInfo (dii : Dict) : Node :=
  { uuid := "node-1", driver := "ansible", driverInfo := [], driverInternalInfo := dii,
    instanceInfo := [], properties := [], extra := [], provisionState := .deployWait,
    lastError := none }

/-- The callback URL `scheme://host[:port]path`. -/
def callbackUrl (scheme host : String) (port : Option String) (path : String) : String :=
  scheme ++ "://" ++ host ++ (port.map (":" ++ ·)).getD "" ++ path

/-- The `:port` part of a callback URL. -/
def portPart (port : Option String) : List Char := ((port.map (":" ++ ·)).getD "").toList

theorem hostChar_not_special {c : Char} (h : c.isAlphanum ∨ c = '-' ∨ c = '.') :
    isNetlocDelim c = false ∧ c ≠ '[' ∧ c ≠ ']' ∧ c ≠ ':' := by
  have hc : c.isAlphanum = true ∨ c = '-' ∨ c = '.' := h
  refine ⟨?_, ?_, ?_, ?_⟩
  · cases hd : isNetlocDelim c
    · rfl
    · simp only [isNetlocDelim, Bool.or_eq_true, beq_iff_eq] at hd
      rcases hd with (rfl | rfl) | rfl <;> revert hc <;> decide
  all_goals rintro rfl; revert hc; decide

theorem portChar_not_special {port : Option String} (hp : ∀ p ∈ port, IsPort p) :
    ∀ c ∈ portPart port, isNetlocDelim c = false ∧ c ≠ '[' ∧ c ≠ ']' := by
  intro c hc
  cases port with
  | none => simp [portPart] at hc
  | some p =>
    simp only [portPart, Option.map_some', Option.getD_some] at hc
    rcases List.mem_cons.mp hc with rfl | hc
    · decide
    · have hd : c.isDigit = true := hp p rfl c hc
      refine ⟨?_, ?_, ?_⟩
      · cases hn : isNetlocDelim c
        · rfl
        · simp only [isNetlocDelim, Bool.or_eq_true, beq_iff_eq] at hn
          rcases hn with (rfl | rfl) | rfl <;> revert hd <;> decide
      all_goals rintro rfl; revert hd; decide

theorem callbackUrl_toList (scheme host : String) (port : Option String) (path : String) :
    (callbackUrl scheme host port path).toList =
      scheme.toList ++ ':' :: '/' :: '/' :: ((host.toList ++ portPart port) ++ path.toList) := by
  simp only [callbackUrl, portPart, String.toList, String.data_append, List.append_assoc]
  rfl

/-- The host of a URL is what precedes the `:` of its port. -/
theorem takeWhile_host {host : String} (hh : IsHostName host) (port : Option String) :
    (host.toList ++ portPart port).takeWhile (· != ':') = host.toList := by
  have hne : ∀ c ∈ host.toList, (c != ':') = true := fun c hc => by
    simpa using (hostChar_not_special (hh.2 c hc)).2.2.2
  rw [List.takeWhile_append_of_pos hne]
  cases port <;> simp [portPart]

/-- **The callback address.** The host of a `scheme://host[:port][/path]` callback URL with
a DNS name or IPv4 host, and the empty string when no callback was recorded. -/
theorem getNodeIpHeartbeat_callback (node : Node) :
    (∀ (scheme host : String) (port : Option String) (path : String),
      IsScheme scheme → IsHostName host → (∀ p ∈ port, IsPort p) → IsPath path →
      Dict.lookup node.driverInternalInfo (.str "agent_url") =
        some (.str (callbackUrl scheme host port path)) →
      getNodeIpHeartbeat node = .ok host) ∧
    (Dict.lookup node.driverInternalInfo (.str "agent_url") = none →
      getNodeIpHeartbeat node = .ok "") := by
  constructor
  · intro scheme host port path hs hh hp hpath hurl
    have hloc : ∀ c ∈ host.toList ++ portPart port, isNetlocDelim c = false := by
      intro c hc
      rcases List.mem_append.mp hc with hc | hc
      · exact (hostChar_not_special (hh.2 c hc)).1
      · exact (portChar_not_special hp c hc).1
    have hbr : '[' ∉ host.toList ++ portPart port ∧ ']' ∉ host.toList ++ portPart port := by
      constructor <;> intro hc <;> rcases List.mem_append.mp hc with hc | hc
      · exact (hostChar_not_special (hh.2 _ hc)).2.1 rfl
      · exact (portChar_not_special hp _ hc).2.1 rfl
      · exact (hostChar_not_special (hh.2 _ hc)).2.2.1 rfl
      · exact (portChar_not_special hp _ hc).2.2 rfl
    have hsplit := urlsplit_netloc hs.1 hs.2 hloc hbr hpath
    rw [← callbackUrl_toList] at hsplit
    simp only [getNodeIpHeartbeat, Dict.get, hurl, Option.getD_some]
    simp only [urlsplit]
    revert hsplit
    cases urlsplitChars (callbackUrl scheme host port path).toList with
    | error e => intro h; cases h
    | ok parts =>
      intro h
      have hn : parts.netloc = String.mk (host.toList ++ portPart port) := by
        simpa [Except.map] using h
      show Except.ok (String.mk (parts.netloc.toList.takeWhile (· != ':'))) = _
      rw [hn]
      show Except.ok (String.mk ((host.toList ++ portPart port).takeWhile (· != ':'))) = _
      rw [takeWhile_host hh]
      rfl
  · intro h
    simp only [getNodeIpHeartbeat, Dict.get, h, Option.getD_none]
    rfl

theorem getNodeIpHeartbeat_callback_at_ipv4 :
    (IsScheme "http" ∧ IsHostName "10.0.0.5" ∧ (∀ p ∈ some "9999", IsPort p) ∧ IsPath "/v1") ∧
    getNodeIpHeartbeat (nodeWithInternalInfo
      [(.str "agent_url", .str (callbackUrl "http" "10.0.0.5" (some "9999") "/v1"))]) =
      .ok "10.0.0.5" := by
  have hs : IsScheme "http" := by unfold IsScheme; decide
  have hh : IsHostName "10.0.0.5" := by unfold IsHostName; decide
  have hp : ∀ p ∈ some "9999", IsPort p := by
    intro p hp; cases hp; unfold IsPort; decide
  have hpath : IsPath "/v1" := Or.inr rfl
  exact ⟨⟨hs, hh, hp, hpath⟩, (getNodeIpHeartbeat_callback _).1 "http" "10.0.0.5" (some "9999")
    "/v1" hs hh hp hpath rfl⟩

/-- Without a recorded callback the address is `''`, and a bracketed IPv6 host is cut at
its first `:`. -/
theorem getNodeIpHeartbeat_empty_and_ipv6 :
    getNodeIpHeartbeat (nodeWithInternalInfo []) = .ok "" ∧
    getNodeIpHeartbeat (nodeWithInternalInfo
      [(.str "agent_url", .str "http://[fd00::1]:9999")]) = .ok "[fd00" := ⟨rfl, rfl⟩

end IronicAnsible.Heartbeat
