import FacetedSearch.Engine.Address
import FacetedSearch.Proofs.Text.Decimal
import FacetedSearch.Proofs.Text.Pieces

/-!
# Addresses that are written and read back

An address is written with a scheme or without one, and with a port or without one.  The port is set
off by the last colon, so that a host may hold colons of its own, and only one scheme is taken off,
so that what follows it may look like another.

* `Address.Scheme`, `Address.written` — how an address is written.
* `Address.scheme_append` — the scheme is told from what follows it.
* `Address.HasNoScheme.append_port` — a port does not make a host look like a scheme.
* `Address.parse_written_port`, `Address.parse_written_host` — what is read of an address.
* `Connection.ofSettings_written` — the connection to an address that is written.
-/

set_option autoImplicit false

namespace FacetedSearch

namespace Address

/-- What an address says first of whether the connection is secure; without a scheme it is not. -/
inductive Scheme where
  | plain
  | secure
  | unnamed
  deriving DecidableEq, Repr

/-- What is written for a scheme. -/
def Scheme.text : Scheme → String
  | plain => "http://"
  | secure => "https://"
  | unnamed => ""

/-- Whether the connection is secure. -/
def Scheme.isSecure : Scheme → Bool
  | secure => true
  | _ => false

/-- An address as it is written: the scheme, the host and, after a colon, the port if named. -/
def written (scheme : Scheme) (host : String) (port : Option Nat) : String :=
  scheme.text ++ host ++
    match port with
    | some port => ":" ++ toString port
    | none => ""

/-- The text does not begin with a scheme. -/
def HasNoScheme (cs : List Char) : Prop := ¬ "http://".toList <+: cs ∧ ¬ "https://".toList <+: cs

instance (cs : List Char) : Decidable (HasNoScheme cs) :=
  inferInstanceAs (Decidable (¬ "http://".toList <+: cs ∧ ¬ "https://".toList <+: cs))

variable {opening : String} {cs : List Char}

/-! ## Schemes -/

theorem after?_append (opening : String) (cs : List Char) :
    after? opening (opening.toList ++ cs) = some cs := by
  have hprefix : opening.toList.isPrefixOf (opening.toList ++ cs) = true :=
    List.isPrefixOf_iff_prefix.2 (List.prefix_append _ _)
  rw [after?, if_pos hprefix, ← String.length_toList, List.drop_left]

theorem after?_eq_none (h : ¬ opening.toList <+: cs) : after? opening cs = none :=
  if_neg fun hprefix => h (List.isPrefixOf_iff_prefix.1 hprefix)

/-- One scheme is taken off, whatever follows it. -/
theorem scheme_append (s : Scheme) (h : s = .unnamed → HasNoScheme cs) :
    scheme (s.text.toList ++ cs) = (s.isSecure, cs) := by
  unfold scheme
  cases s with
  | plain =>
    rw [Scheme.text, after?_append]
    rfl
  | secure =>
    -- the two schemes part at the letter before the colon
    have hplain : ¬ "http://".toList <+: "https://".toList ++ cs := by simp
    rw [Scheme.text, after?_eq_none hplain, after?_append]
    rfl
  | unnamed =>
    obtain ⟨hplain, hsecure⟩ := h rfl
    rw [Scheme.text, String.toList_empty, List.nil_append, after?_eq_none hplain,
      after?_eq_none hsecure]
    rfl

/-- What ends in a slash and begins a host with a port begins the host. -/
theorem prefix_of_prefix_append_port {opening host port : List Char}
    (hslash : opening.getLast? = some '/') (hport : '/' ∉ port)
    (h : opening <+: host ++ ':' :: port) : opening <+: host := by
  rcases List.prefix_or_prefix_of_prefix h (List.prefix_append host (':' :: port)) with
    hopening | ⟨rest, rfl⟩
  · exact hopening
  · -- the slash at the end would be the colon or one of the digits
    have hrest : rest <+: ':' :: port := (List.prefix_append_right_inj host).1 h
    cases rest with
    | nil => simp
    | cons c rest =>
      rw [List.getLast?_append_of_ne_nil _ (List.cons_ne_nil c rest)] at hslash
      have hmem := hrest.subset (List.mem_of_getLast? hslash)
      rcases List.mem_cons.1 hmem with hcolon | hmem
      · exact absurd hcolon (by decide)
      · exact absurd hmem hport

/-- A port does not make a host look like a scheme. -/
theorem HasNoScheme.append_port {host port : List Char} (h : HasNoScheme host)
    (hport : '/' ∉ port) : HasNoScheme (host ++ ':' :: port) :=
  ⟨fun hplain => h.1 (prefix_of_prefix_append_port (by decide) hport hplain),
    fun hsecure => h.2 (prefix_of_prefix_append_port (by decide) hport hsecure)⟩

/-- A scheme has a colon. -/
theorem HasNoScheme.of_notMem (h : ':' ∉ cs) : HasNoScheme cs :=
  ⟨fun hplain => h (hplain.subset (by decide)), fun hsecure => h (hsecure.subset (by decide))⟩

/-! ## Addresses -/

theorem isAsciiDigit_of_mem_toDigits {port : Nat} {c : Char} (h : c ∈ Nat.toDigits 10 port) :
    Text.IsAsciiDigit c :=
  (Text.isDecimal_toDigits port).digits c h

theorem toList_written_port (s : Scheme) (host : String) (port : Nat) :
    (written s host (some port)).toList =
      s.text.toList ++ (host.toList ++ ':' :: Nat.toDigits 10 port) := by
  simp [written]

theorem toList_written_host (s : Scheme) (host : String) :
    (written s host none).toList = s.text.toList ++ host.toList := by
  simp [written]

/-- The port of an address is read as it is written, unless it has too many digits. -/
theorem toInteger_port (port : Nat) :
    (Json.str (String.ofList (Nat.toDigits 10 port))).toInteger =
      if port < 10 ^ Numeral.digitLimit then .ok (port : Int) else .error .value := by
  unfold Json.toInteger
  dsimp only
  rw [String.toList_ofList, Numeral.integer?_toDigits]
  by_cases h : port < 10 ^ Numeral.digitLimit
  · rw [if_pos h, if_pos h]
  · rw [if_neg h, if_neg h]

/-- **An address with a port is read back**, unless the port has too many digits. -/
theorem parse_written_port {s : Scheme} {host : String}
    (h : s = .unnamed → HasNoScheme host.toList) (port : Nat) :
    parse (written s host (some port)) =
      if port < 10 ^ Numeral.digitLimit then .ok ⟨host, port, s.isSecure⟩ else .error .value := by
  have hcolon : ':' ∉ Nat.toDigits 10 port := fun hmem =>
    absurd (isAsciiDigit_of_mem_toDigits hmem).2 (by decide)
  have hslash : '/' ∉ Nat.toDigits 10 port := fun hmem =>
    absurd (isAsciiDigit_of_mem_toDigits hmem).1 (by decide)
  unfold parse
  rw [toList_written_port, scheme_append s fun hs => (h hs).append_port hslash]
  dsimp only
  rw [Text.cutAtLast_append host.toList hcolon]
  dsimp only
  rw [toInteger_port, String.ofList_toList]
  split <;> rfl

/-- **An address without a port is read back**, with the usual port. -/
theorem parse_written_host (s : Scheme) {host : String} (h : ':' ∉ host.toList) :
    parse (written s host none) = .ok ⟨host, 9200, s.isSecure⟩ := by
  unfold parse
  rw [toList_written_host, scheme_append s fun _ => .of_notMem h]
  dsimp only
  rw [Text.cutAtLast_of_notMem h]
  dsimp only
  rw [String.ofList_toList]
  rfl

end Address

namespace Connection

open Address

theorem ofSettings_eq (s : Settings) :
    ofSettings s = (parse s.host).map fun address =>
      ⟨address, s.credentials, s.verifyCertificates⟩ := by
  unfold ofSettings
  cases parse s.host <;> rfl

/-- **The address of the engine is read back as it is written.**  A scheme alone says whether the
connection is secure; the host may hold colons and, after a scheme, another scheme.  The port is the
one that is written, if it has no more digits than are read, and an address with a longer one is
refused.  Where no port is written, the host holding no colon, it is the usual one. -/
theorem ofSettings_written (s : Settings) (scheme : Scheme) (host : String) :
    (∀ port : Nat, (scheme = .unnamed → HasNoScheme host.toList) →
      ofSettings { s with host := written scheme host (some port) } =
        if port < 10 ^ Numeral.digitLimit then
          .ok ⟨⟨host, port, scheme.isSecure⟩, s.credentials, s.verifyCertificates⟩
        else .error .value) ∧
    (':' ∉ host.toList →
      ofSettings { s with host := written scheme host none } =
        .ok ⟨⟨host, 9200, scheme.isSecure⟩, s.credentials, s.verifyCertificates⟩) := by
  constructor
  · intro port hhost
    rw [ofSettings_eq, parse_written_port hhost port]
    split <;> rfl
  · intro hhost
    rw [ofSettings_eq, parse_written_host scheme hhost]
    rfl

/-- A host with a scheme and colons of its own, one without scheme, and one without port. -/
theorem ofSettings_written_nested :
    ofSettings { Settings.standard with host := "https://http://a:b@c:443" } =
      .ok ⟨⟨"http://a:b@c", 443, true⟩, none, false⟩ ∧
    ofSettings { Settings.standard with host := "http:/c:80" } =
      .ok ⟨⟨"http:/c", 80, false⟩, none, false⟩ ∧
    ofSettings { Settings.standard with host := "http://c" } =
      .ok ⟨⟨"c", 9200, false⟩, none, false⟩ := by
  have hport {port : Nat} (h : port < 10 ^ 3) : port < 10 ^ Numeral.digitLimit :=
    h.trans_le (Nat.pow_le_pow_right (by decide) (by decide))
  have hnested := (ofSettings_written Settings.standard .secure "http://a:b@c").1 443 (by decide)
  have hunnamed := (ofSettings_written Settings.standard .unnamed "http:/c").1 80 (by decide)
  have hbare := (ofSettings_written Settings.standard .plain "c").2 (by decide)
  rw [if_pos (hport (by decide))] at hnested hunnamed
  exact ⟨hnested, hunnamed, hbare⟩

/-- A port of one digit more than are read is refused. -/
theorem ofSettings_written_long :
    ofSettings { Settings.standard with host := written .plain "h" (some (10 ^ 4300)) } =
      .error .value := by
  have hlong : ¬ 10 ^ 4300 < 10 ^ Numeral.digitLimit := by
    rw [Numeral.digitLimit]
    exact lt_irrefl _
  have hread := @parse_written_port .plain "h" (by decide) (10 ^ 4300)
  rw [if_neg hlong] at hread
  rw [ofSettings_eq, hread]
  rfl

end Connection

end FacetedSearch
