import VkTurn.Frontend.VlessDecoding
import VkTurn.Text.Json
import VkTurn.Text.KotlinDecimal

/-! # Reading a VLESS link back

A link is written from its parts and parsed.  The parser finds the parts again, except the host
when it is an IPv6 address and no port follows, and the values that are not simple.
-/

namespace VkTurn.Frontend

open VkTurn.Launcher VkTurn.Text

/-! ## Links -/

def isIpv6Char (char : Char) : Bool := (hexValue char).isSome || char = ':' || char = '.'

/-- In the key of a parameter the equals sign is written by its byte. -/
def isKeyChar (char : Char) : Bool := isQueryChar char && char ≠ '='

inductive VlessHost where
  /-- A name or an IPv4 address. -/
  | name (text : String) (given : text ≠ "")
      (chars : ∀ char ∈ text.toList, isUnreserved char = true)
  /-- An IPv6 address, which is written in brackets. -/
  | ipv6 (address : String) (colon : ':' ∈ address.toList)
      (chars : ∀ char ∈ address.toList, isIpv6Char char = true)

structure VlessParam where
  key : Encoded isKeyChar
  given : key ≠ []
  value : Encoded isQueryChar

/-- The parts of `vless://uuid@host[:port][/][?query][#fragment]`; a fragment may be any text. -/
structure VlessLink where
  uuid : String
  uuidGiven : uuid ≠ ""
  uuidChars : ∀ char ∈ uuid.toList, isUnreserved char = true
  host : VlessHost
  port : Option UInt16
  slash : Bool
  query : Option (List VlessParam)
  fragment : Option String

def VlessHost.chars : VlessHost → List Char
  | .name text _ _ => text.toList
  | .ipv6 address _ _ => '[' :: address.toList ++ [']']

def VlessHost.isIpv6 : VlessHost → Bool
  | .name .. => false
  | .ipv6 .. => true

def VlessParam.chars (param : VlessParam) : List Char :=
  param.key.chars ++ '=' :: param.value.chars

namespace VlessLink

variable (link : VlessLink)

def portChars : List Char :=
  match link.port with
  | none => []
  | some port => ':' :: (toString port.toNat).toList

def hostPort : List Char := link.host.chars ++ link.portChars

def slashChars : List Char := if link.slash then ['/'] else []

def params : List VlessParam := link.query.getD []

def paramsChars : List Char := ['&'].intercalate (link.params.map VlessParam.chars)

def queryChars : List Char := if link.query.isSome then '?' :: link.paramsChars else []

/-- What stands between the scheme and the fragment. -/
def body : List Char :=
  link.uuid.toList ++ '@' :: (link.hostPort ++ link.slashChars ++ link.queryChars)

def fragmentChars : List Char :=
  match link.fragment with
  | none => []
  | some fragment => '#' :: fragment.toList

def text : String := String.ofList ("vless://".toList ++ link.body ++ link.fragmentChars)

/-- What the link says. -/
def meant : ParsedVless :=
  vlessOf link.uuid (String.ofList link.host.chars)
    ((link.port.map fun port => Int32.ofInt port.toNat).getD 443)
    (link.params.map fun param => (param.key.original, param.value.original))

/-- The last parameter with a key. -/
def lastParam (key : String) : Option VlessParam :=
  link.params.reverse.find? fun param => key == param.key.original

end VlessLink

/-- The parameters that the parser knows. -/
def vlessKeys : List String :=
  ["security", "sni", "alpn", "flow", "pbk", "sid", "fp", "type", "path", "host", "serviceName"]

/-- An IPv6 address is followed by a port, and the values of the known parameters are simple. -/
structure VlessLink.IsReadable (link : VlessLink) : Prop where
  port : link.host.isIpv6 = true → link.port.isSome = true
  params : ∀ key ∈ vlessKeys, ∀ param, link.lastParam key = some param →
    ∀ part ∈ param.value, IsSimple part

/-! ## The parameters -/

section Params

variable {literal : Char → Bool}

theorem escapeBytes_ne_nil {bytes : List UInt8} (given : bytes ≠ []) (upper : Nat → Bool) :
    escapeBytes bytes upper ≠ [] := by
  cases bytes with
  | nil => exact absurd rfl given
  | cons byte rest => exact List.cons_ne_nil _ _

theorem chars_ne_nil {encoded : Encoded literal} (given : encoded ≠ []) : encoded.chars ≠ [] := by
  obtain ⟨part, rest, rfl⟩ := List.exists_cons_of_ne_nil given
  have written : part.chars ≠ [] := by
    cases part with
    | plain char isLiteral => exact List.cons_ne_nil _ _
    | escaped char upper => exact escapeBytes_ne_nil String.utf8EncodeChar_ne_nil upper
  exact List.append_ne_nil_of_left_ne_nil written _

theorem parseParam_chars (param : VlessParam) : parseParam param.chars =
    some (decode (String.ofList param.key.chars), decode (String.ofList param.value.chars)) := by
  have free : '=' ∉ param.key.chars := Encoded.not_mem_chars (by decide) (by decide) (by decide)
  rw [parseParam, VlessParam.chars, cutFirst_append free]
  simp only [if_neg (chars_ne_nil param.given), decode, String.toList_ofList]

theorem parseParams_chars (link : VlessLink) : parseParams link.paramsChars =
    link.params.map fun param =>
      (decode (String.ofList param.key.chars), decode (String.ofList param.value.chars)) := by
  rw [parseParams, VlessLink.paramsChars]
  cases isParams : link.params with
  | nil => rfl
  | cons first rest =>
    have free : ∀ chars ∈ (first :: rest).map VlessParam.chars, '&' ∉ chars := by
      intro chars isChars
      obtain ⟨param, _, rfl⟩ := List.mem_map.mp isChars
      have inKey : '&' ∉ param.key.chars :=
        Encoded.not_mem_chars (by decide) (by decide) (by decide)
      have inValue : '&' ∉ param.value.chars :=
        Encoded.not_mem_chars (by decide) (by decide) (by decide)
      simp [VlessParam.chars, inKey, inValue]
    rw [List.splitOn_intercalate _ free (by simp), List.filterMap_map]
    have each : parseParam ∘ VlessParam.chars = fun param =>
        some (decode (String.ofList param.key.chars), decode (String.ofList param.value.chars)) :=
      funext parseParam_chars
    rw [each, List.filterMap_eq_map']

/-- A decoded key is a known one exactly when it is meant as that. -/
theorem decode_key_iff {key : String} (isKey : key ∈ vlessKeys) (encoded : Encoded isKeyChar) :
    decode (String.ofList encoded.chars) = key ↔ encoded.original = key := by
  have words : ∀ char ∈ vlessKeys.flatMap String.toList,
      char.toNat < 128 ∧ char ≠ ' ' ∧ char ≠ '+' := List.all_iff_forall_prop.mp (by decide +kernel)
  have letters : ∀ char ∈ key.toList, char.toNat < 128 ∧ char ≠ ' ' ∧ char ≠ '+' :=
    fun char member => words char (List.mem_flatMap_of_mem isKey member)
  have ascii : ∀ char, isKeyChar char = true → char.toNat < 128 := by
    intro char isLiteral
    rw [isKeyChar, Bool.and_eq_true] at isLiteral
    exact (isQueryChar_visible isLiteral.1).2
  constructor
  · intro decoded
    have simple : ∀ part ∈ encoded, IsSimple part := by
      apply simple_of_decodedChars ascii
      intro char member
      rw [decode_chars (by decide +kernel)] at decoded
      rw [← decoded, String.toList_ofList] at letters
      exact ⟨(letters char member).1, (letters char member).2.1⟩
    rw [← decoded, decode_of_simple (by decide +kernel) simple]
  · intro meant
    have simple : ∀ part ∈ encoded, IsSimple part := by
      intro part isPart
      have member : part.original ∈ key.toList := by
        rw [← meant, Encoded.original, String.toList_ofList]
        exact List.mem_map_of_mem isPart
      obtain ⟨ascii, _, notPlus⟩ := letters _ member
      cases part with
      | plain char isLiteral => exact ⟨ascii, notPlus⟩
      | escaped char upper => exact ascii
    rw [decode_of_simple (by decide +kernel) simple, meant]

theorem lookup_map {Part : Type} (key : String) (name value : Part → String) (parts : List Part) :
    (parts.map fun part => (name part, value part)).lookup key =
      (parts.find? fun part => key == name part).map value := by
  induction parts with
  | nil => rfl
  | cons part parts inductionHypothesis =>
    rw [List.map_cons, List.lookup_cons, List.find?_cons, inductionHypothesis]
    cases key == name part with
    | true => rfl
    | false => rfl

/-- The parser takes the value of the last parameter with a known key. -/
theorem paramOf_parseParams (link : VlessLink) {key : String} (isKey : key ∈ vlessKeys) :
    paramOf (parseParams link.paramsChars) key =
      (link.lastParam key).map fun param => decode (String.ofList param.value.chars) := by
  rw [parseParams_chars, paramOf, ← List.map_reverse, lookup_map, VlessLink.lastParam]
  congr 2
  funext param
  rw [Bool.eq_iff_iff, beq_iff_eq, beq_iff_eq, eq_comm, decode_key_iff isKey, eq_comm]

theorem paramOf_meant (link : VlessLink) (key : String) :
    paramOf (link.params.map fun param => (param.key.original, param.value.original)) key =
      (link.lastParam key).map fun param => param.value.original := by
  rw [paramOf, ← List.map_reverse, lookup_map, VlessLink.lastParam]

/-- The value of a known key is read exactly if it is simple. -/
theorem paramOf_eq_iff (link : VlessLink) {key : String} (isKey : key ∈ vlessKeys) {Read : Type}
    (read : Option String → Read)
    (exact : ∀ value : Encoded isQueryChar,
      read (some (decode (String.ofList value.chars))) = read (some value.original) ↔
        ∀ part ∈ value, IsSimple part) :
    read (paramOf (parseParams link.paramsChars) key) = read (paramOf (link.params.map fun param =>
        (param.key.original, param.value.original)) key) ↔
      ∀ param, link.lastParam key = some param → ∀ part ∈ param.value, IsSimple part := by
  rw [paramOf_parseParams link isKey, paramOf_meant]
  cases link.lastParam key with
  | none => exact iff_of_true rfl nofun
  | some param =>
    rw [Option.map_some, Option.map_some, exact]
    simp only [Option.some.injEq, forall_eq']

end Params

/-! ## The host and the port -/

section HostPort

variable (link : VlessLink)

theorem not_mem_of_class {isClass : Char → Bool} {chars : List Char} {char : Char}
    (all : ∀ char ∈ chars, isClass char = true) (outside : isClass char = false) :
    char ∉ chars := by
  intro member
  cases outside.symm.trans (all char member)

theorem parseHostPort_of_port {port : UInt16} (isPort : link.port = some port) :
    parseHostPort link.hostPort = (String.ofList link.host.chars, Int32.ofInt port.toNat) := by
  have free : ':' ∉ (toString port.toNat).toList := not_mem_of_class isDigit_toString (by decide)
  have small := port.toNat_lt
  have read : toIntOrNull (toString port.toNat) = some (Int32.ofInt port.toNat) := by
    rw [toIntOrNull, toIntegerOrNull_toString (by omega) (by omega), Option.map_some]
  have chars : link.hostPort = link.host.chars ++ ':' :: (toString port.toNat).toList := by
    simp only [VlessLink.hostPort, VlessLink.portChars, isPort]
  simp only [parseHostPort, chars, cutLast_append free, String.ofList_toList, read,
    Option.getD_some]

theorem hostPort_of_none (noPort : link.port = none) : link.hostPort = link.host.chars := by
  simp only [VlessLink.hostPort, VlessLink.portChars, noPort, List.append_nil]

theorem parseHostPort_of_name (noPort : link.port = none) (isName : link.host.isIpv6 = false) :
    parseHostPort link.hostPort = (String.ofList link.host.chars, 443) := by
  have free : ':' ∉ link.host.chars := by
    cases isHost : link.host with
    | name text given chars => exact not_mem_of_class chars (by decide)
    | ipv6 address colon chars =>
      rw [isHost] at isName
      cases isName
  simp only [parseHostPort, hostPort_of_none link noPort, cutLast_free free]

/-- Without a port an IPv6 address is cut at its last colon. -/
theorem parseHostPort_of_ipv6 (noPort : link.port = none) (isIpv6 : link.host.isIpv6 = true) :
    (parseHostPort link.hostPort).1 ≠ String.ofList link.host.chars := by
  have hasColon : ':' ∈ link.host.chars := by
    cases isHost : link.host with
    | name text given chars =>
      rw [isHost] at isIpv6
      cases isIpv6
    | ipv6 address colon chars => exact List.mem_cons_of_mem _ (List.mem_append_left _ colon)
  have cut : cutLast ':' link.host.chars = some
      ((link.host.chars.rdropWhile (· ≠ ':')).dropLast, link.host.chars.rtakeWhile (· ≠ ':')) :=
    if_pos hasColon
  rw [hostPort_of_none link noPort, parseHostPort, cut]
  intro same
  -- what stands before the colon is shorter
  have shorter := (List.rdropWhile_prefix (· ≠ ':') link.host.chars).length_le
  have given := List.length_pos_of_mem hasColon
  have length := congrArg List.length (String.ofList_injective same)
  rw [List.length_dropLast] at length
  omega

/-- The host and the port are found again, except for an IPv6 address without a port. -/
theorem parseHostPort_iff : parseHostPort link.hostPort = (String.ofList link.host.chars,
      (link.port.map fun port => Int32.ofInt port.toNat).getD 443) ↔
    (link.host.isIpv6 = true → link.port.isSome = true) := by
  cases isPort : link.port with
  | some port => exact iff_of_true (parseHostPort_of_port link isPort) fun _ => rfl
  | none =>
    cases isIpv6 : link.host.isIpv6 with
    | false => exact iff_of_true (parseHostPort_of_name link isPort isIpv6) nofun
    | true =>
      refine iff_of_false (fun same => ?_) fun given => by cases given rfl
      exact parseHostPort_of_ipv6 link isPort isIpv6 (congrArg Prod.fst same)

end HostPort

/-! ## The link -/

section Link

variable (link : VlessLink)

/-- A visible ASCII character that does not start a fragment. -/
def IsBodyChar (char : Char) : Prop := 0x20 < char.toNat ∧ char.toNat < 128 ∧ char ≠ '#'

theorem bodyChar_of_query {char : Char} (isLiteral : isQueryChar char = true) :
    IsBodyChar char := by
  obtain ⟨low, high⟩ := isQueryChar_visible isLiteral
  refine ⟨low, high, ?_⟩
  rintro rfl
  exact absurd isLiteral (by decide)

theorem bodyChar_of_unreserved {char : Char} (unreserved : isUnreserved char = true) :
    IsBodyChar char := by
  apply bodyChar_of_query
  rw [isQueryChar, unreserved, Bool.true_or, Bool.true_or]

theorem bodyChar_of_encoded {literal : Char → Bool} {encoded : Encoded literal}
    (query : ∀ char, literal char = true → isQueryChar char = true) {char : Char}
    (member : char ∈ encoded.chars) : IsBodyChar char := by
  obtain rfl | unreserved | isLiteral := Encoded.mem_chars member
  · exact ⟨by decide, by decide, by decide⟩
  · exact bodyChar_of_unreserved unreserved
  · exact bodyChar_of_query (query char isLiteral)

theorem bodyChar_of_digit {char : Char} (isDigit : char.isDigit = true) : IsBodyChar char := by
  apply bodyChar_of_unreserved
  simp only [isUnreserved, Char.isAlphanum, isDigit, Bool.or_true, Bool.true_or]

theorem bodyChar_of_letter {first last char : Char} (isLow : 0x40 < first.toNat)
    (isHigh : last.toNat < 128) (within : first ≤ char ∧ char ≤ last) : IsBodyChar char := by
  have low : first.toNat ≤ char.toNat := within.1
  have high : char.toNat ≤ last.toNat := within.2
  refine ⟨by omega, by omega, ?_⟩
  rintro rfl
  exact absurd (Nat.lt_of_lt_of_le isLow low) (by decide)

theorem bodyChar_of_ipv6 {char : Char} (isChar : isIpv6Char char = true) : IsBodyChar char := by
  simp only [isIpv6Char, Bool.or_eq_true, decide_eq_true_eq] at isChar
  obtain ((isHex | rfl) | rfl) := isChar
  · unfold hexValue at isHex
    split at isHex
    · rename_i isDigit
      exact bodyChar_of_digit isDigit
    split at isHex
    · rename_i isLower
      exact bodyChar_of_letter (by decide) (by decide) isLower
    split at isHex
    · rename_i isUpper
      exact bodyChar_of_letter (by decide) (by decide) isUpper
    · cases isHex
  · exact ⟨by decide, by decide, by decide⟩
  · exact ⟨by decide, by decide, by decide⟩

theorem bodyChar_of_host {host : VlessHost} {char : Char} (member : char ∈ host.chars) :
    IsBodyChar char := by
  cases host with
  | name text given chars => exact bodyChar_of_unreserved (chars char member)
  | ipv6 address colon chars =>
    simp only [VlessHost.chars, List.cons_append, List.mem_cons, List.mem_append,
      List.not_mem_nil, or_false] at member
    obtain rfl | inAddress | rfl := member
    · exact ⟨by decide, by decide, by decide⟩
    · exact bodyChar_of_ipv6 (chars char inAddress)
    · exact ⟨by decide, by decide, by decide⟩

theorem bodyChar_of_port {char : Char} (member : char ∈ link.portChars) : IsBodyChar char := by
  unfold VlessLink.portChars at member
  split at member
  · cases member
  · obtain rfl | inDigits := List.mem_cons.mp member
    · exact ⟨by decide, by decide, by decide⟩
    · exact bodyChar_of_digit (isDigit_toString char inDigits)

theorem bodyChar_of_param {param : VlessParam} {char : Char} (member : char ∈ param.chars) :
    IsBodyChar char := by
  obtain inKey | inRest := List.mem_append.mp member
  · refine bodyChar_of_encoded (fun other isLiteral => ?_) inKey
    rw [isKeyChar, Bool.and_eq_true] at isLiteral
    exact isLiteral.1
  · obtain rfl | inValue := List.mem_cons.mp inRest
    · exact ⟨by decide, by decide, by decide⟩
    · exact bodyChar_of_encoded (fun other isLiteral => isLiteral) inValue

theorem bodyChar_of_params {params : List VlessParam} {char : Char}
    (member : char ∈ ['&'].intercalate (params.map VlessParam.chars)) : IsBodyChar char := by
  induction params with
  | nil => cases member
  | cons param rest inductionHypothesis =>
    cases rest with
    | nil =>
      have inParam : char ∈ param.chars := by simpa [List.intercalate] using member
      exact bodyChar_of_param inParam
    | cons second others =>
      rw [List.map_cons, List.map_cons, List.intercalate_cons_cons, ← List.map_cons] at member
      simp only [List.mem_append, List.mem_singleton] at member
      obtain (inParam | rfl) | later := member
      · exact bodyChar_of_param inParam
      · exact ⟨by decide, by decide, by decide⟩
      · exact inductionHypothesis later

theorem body_chars : ∀ char ∈ link.body, IsBodyChar char := by
  intro char member
  simp only [VlessLink.body, VlessLink.hostPort, List.mem_append, List.mem_cons] at member
  obtain inUuid | rfl | ((inHost | inPort) | inSlash) | inQuery := member
  · exact bodyChar_of_unreserved (link.uuidChars char inUuid)
  · exact ⟨by decide, by decide, by decide⟩
  · exact bodyChar_of_host inHost
  · exact bodyChar_of_port link inPort
  · unfold VlessLink.slashChars at inSlash
    split at inSlash
    · obtain rfl := List.mem_singleton.mp inSlash
      exact ⟨by decide, by decide, by decide⟩
    · cases inSlash
  · unfold VlessLink.queryChars at inQuery
    split at inQuery
    · obtain rfl | inParams := List.mem_cons.mp inQuery
      · exact ⟨by decide, by decide, by decide⟩
      · exact bodyChar_of_params inParams
    · cases inQuery

theorem bodyChar_not_blank {char : Char} (isBody : IsBodyChar char) : kotlinSpace char = false := by
  obtain ⟨low, high, _⟩ := isBody
  simp only [kotlinSpace, Bool.or_eq_false_iff, Bool.and_eq_false_iff, decide_eq_false_iff_not,
    beq_eq_false_iff_ne]
  omega

/-- Only blanks behind the link and its fragment are trimmed. -/
theorem kotlinTrim_text : ∃ rest, (kotlinTrim link.text).toList = "vless://".toList ++
    (link.body ++ rest) ∧ ∀ first ∈ rest.head?, first = '#' := by
  have solid : ∀ char ∈ "vless://".toList ++ link.body, kotlinSpace char = false := by
    intro char member
    obtain inScheme | inBody := List.mem_append.mp member
    · have scheme : ∀ char ∈ "vless://".toList, kotlinSpace char = false :=
        List.all_iff_forall_prop.mp (by decide)
      exact scheme char inScheme
    · exact bodyChar_not_blank (body_chars link char inBody)
  have isText : link.text.toList = "vless://".toList ++ link.body ++ link.fragmentChars :=
    String.toList_ofList
  -- with the start of a fragment, if there is one, the link has solid ends
  have trimmed {init rest after : List Char} {last : Char}
      (split : "vless://".toList ++ link.body ++ link.fragmentChars = init ++ [last] ++ after)
      (starts : init ++ [last] = 'v' :: rest) (ends : kotlinSpace last = false) :
      (kotlinTrim link.text).toList = init ++ [last] ++ after.rdropWhile kotlinSpace := by
    rw [kotlinTrim, trim, String.toList_ofList, isText, split]
    exact trimChars_append_solid starts (by decide) rfl ends
  have starts (tail : List Char) : ∃ rest, "vless://".toList ++ tail = 'v' :: rest := ⟨_, rfl⟩
  cases isFragment : link.fragment with
  | none =>
    obtain ⟨rest, isScheme⟩ := starts link.body
    obtain isNil | ⟨init, last, isSolid⟩ := List.eq_nil_or_concat' ("vless://".toList ++ link.body)
    · cases isScheme.symm.trans isNil
    · have ends : kotlinSpace last = false := solid last (by rw [isSolid]; simp)
      have split : "vless://".toList ++ link.body ++ link.fragmentChars = init ++ [last] ++ [] := by
        rw [VlessLink.fragmentChars, isFragment, isSolid]
      refine ⟨[], ?_, fun _ isFirst => by cases isFirst⟩
      rw [trimmed split (isSolid.symm.trans isScheme) ends, List.rdropWhile_nil, ← isSolid,
        List.append_nil, List.append_nil]
  | some fragment =>
    obtain ⟨rest, isScheme⟩ := starts (link.body ++ ['#'])
    have split : "vless://".toList ++ link.body ++ link.fragmentChars =
        "vless://".toList ++ link.body ++ ['#'] ++ fragment.toList := by
      rw [VlessLink.fragmentChars, isFragment, List.append_assoc _ ['#'] _]
      rfl
    refine ⟨'#' :: fragment.toList.rdropWhile kotlinSpace, ?_, ?_⟩
    · rw [trimmed split ((List.append_assoc _ _ _).trans isScheme) (by decide), List.append_assoc,
        List.append_assoc]
      rfl
    · rintro first ⟨⟩
      rfl

theorem removePrefix_append {start text : String} {rest : List Char}
    (isText : text.toList = start.toList ++ rest) :
    removePrefix start text = String.ofList rest := by
  have isPrefix : start.toList.isPrefixOf text.toList = true := by
    rw [isText, List.isPrefixOf_iff_prefix]
    exact List.prefix_append _ _
  rw [removePrefix, if_pos isPrefix, isText, List.drop_left]

theorem body_of_text :
    (substringBefore '#' (removePrefix "vless://" (kotlinTrim link.text))).toList = link.body := by
  obtain ⟨rest, isText, isFragment⟩ := kotlinTrim_text link
  have noHash : ∀ char ∈ link.body, decide (char ≠ '#') = true :=
    fun char member => decide_eq_true (body_chars link char member).2.2
  rw [removePrefix_append isText, substringBefore, String.toList_ofList, String.toList_ofList,
    List.takeWhile_append_of_pos noHash]
  cases rest with
  | nil => rw [List.takeWhile_nil, List.append_nil]
  | cons first rest =>
    rw [isFragment first rfl, List.takeWhile_cons_of_neg (by decide), List.append_nil]

theorem not_mem_hostPort {char : Char} (notUnreserved : isUnreserved char = false)
    (notIpv6 : isIpv6Char char = false) (notBracket : char ∉ ['[', ']', ':'])
    (notDigit : char.isDigit = false) : char ∉ link.hostPort := by
  simp only [List.mem_cons, List.not_mem_nil, or_false, not_or] at notBracket
  rw [VlessLink.hostPort, List.mem_append, not_or]
  constructor
  · cases link.host with
    | name text given chars => exact not_mem_of_class chars notUnreserved
    | ipv6 address colon chars =>
      have inAddress : char ∉ address.toList := not_mem_of_class chars notIpv6
      simp [VlessHost.chars, notBracket, inAddress]
  · unfold VlessLink.portChars
    split
    · exact List.not_mem_nil
    · rw [List.mem_cons, not_or]
      exact ⟨notBracket.2.2, not_mem_of_class isDigit_toString notDigit⟩

/-- The parser finds the uuid, the part with the host and the port, and the parameters. -/
theorem parseVlessLink_text : parseVlessLink link.text =
    vlessOf link.uuid (parseHostPort link.hostPort).1 (parseHostPort link.hostPort).2
      (parseParams link.paramsChars) := by
  have noAt : '@' ∉ link.uuid.toList := not_mem_of_class link.uuidChars (by decide)
  have cutAt : cutUuid link.body =
      (link.uuid.toList, link.hostPort ++ link.slashChars ++ link.queryChars) := by
    have given : link.uuid.toList ≠ [] := by
      intro isNil
      exact link.uuidGiven (String.toList_inj.mp (isNil.trans String.toList_empty.symm))
    rw [VlessLink.body, cutUuid, cutFirst_append noAt]
    exact if_neg given
  have noQuestion : '?' ∉ link.hostPort ++ link.slashChars := by
    rw [List.mem_append, not_or]
    refine ⟨not_mem_hostPort link (by decide) (by decide) (by decide) (by decide), ?_⟩
    unfold VlessLink.slashChars
    split
    · decide
    · exact List.not_mem_nil
  have noSlash : '/' ∉ link.hostPort :=
    not_mem_hostPort link (by decide) (by decide) (by decide) (by decide)
  have cutQuery : (cutFirst '?' (link.hostPort ++ link.slashChars ++ link.queryChars)).getD
      (link.hostPort ++ link.slashChars ++ link.queryChars, []) =
      (link.hostPort ++ link.slashChars, link.paramsChars) := by
    unfold VlessLink.queryChars
    split
    · rw [cutFirst_append noQuestion, Option.getD_some]
    · rename_i noQuery
      have isNone : link.query = none := by simpa using noQuery
      have noParams : link.paramsChars = [] := by
        rw [VlessLink.paramsChars, VlessLink.params, isNone]
        rfl
      rw [List.append_nil, cutFirst_free noQuestion, noParams, Option.getD_none]
  have hostPart : (link.hostPort ++ link.slashChars).takeWhile (· ≠ '/') = link.hostPort := by
    unfold VlessLink.slashChars
    split
    · exact takeWhile_free noSlash
    · have others : ∀ char ∈ link.hostPort, decide (char ≠ '/') = true :=
        fun char member => decide_eq_true fun same => noSlash (same ▸ member)
      rw [List.append_nil, List.takeWhile_eq_self_iff.mpr others]
  simp only [parseVlessLink, body_of_text, cutAt, cutQuery, hostPart, String.ofList_toList]

theorem textParam_eq_iff {key : String} (isKey : key ∈ vlessKeys) :
    (paramOf (parseParams link.paramsChars) key).getD "" =
        (paramOf (link.params.map fun param =>
          (param.key.original, param.value.original)) key).getD "" ↔
      ∀ param, link.lastParam key = some param → ∀ part ∈ param.value, IsSimple part :=
  paramOf_eq_iff link isKey (fun value => value.getD "") fun _ => decode_eq_iff

/-- The entries of the value that is read for a key. -/
def alpnOf (params : List (String × String)) : List String :=
  ((paramOf params "alpn").map (entries kotlinSpace ',')).getD []

theorem alpn_eq_iff : alpnOf (parseParams link.paramsChars) =
      alpnOf (link.params.map fun param => (param.key.original, param.value.original)) ↔
    ∀ param, link.lastParam "alpn" = some param → ∀ part ∈ param.value, IsSimple part := by
  apply paramOf_eq_iff link (by decide) fun value => (value.map (entries kotlinSpace ',')).getD []
  intro value
  rw [Option.map_some, Option.map_some, Option.getD_some, Option.getD_some]
  exact entries_decode_eq_iff

/-- A link is read as what it says if and only if it is readable. -/
theorem parseVlessLink_iff : parseVlessLink link.text = link.meant ↔ link.IsReadable := by
  rw [parseVlessLink_text, VlessLink.meant]
  constructor
  · intro same
    refine ⟨(parseHostPort_iff link).mp ?_, ?_⟩
    · exact Prod.ext (congrArg ParsedVless.host same) (congrArg ParsedVless.port same)
    · simp only [vlessKeys, List.forall_mem_cons, List.not_mem_nil, false_implies, implies_true,
        and_true]
      exact ⟨(textParam_eq_iff link (by decide)).mp (congrArg ParsedVless.security same),
        (textParam_eq_iff link (by decide)).mp (congrArg ParsedVless.sni same),
        (alpn_eq_iff link).mp (congrArg ParsedVless.alpn same),
        (textParam_eq_iff link (by decide)).mp (congrArg ParsedVless.flow same),
        (textParam_eq_iff link (by decide)).mp (congrArg ParsedVless.publicKey same),
        (textParam_eq_iff link (by decide)).mp (congrArg ParsedVless.shortId same),
        (textParam_eq_iff link (by decide)).mp (congrArg ParsedVless.fingerprint same),
        (textParam_eq_iff link (by decide)).mp (congrArg ParsedVless.transport same),
        (textParam_eq_iff link (by decide)).mp (congrArg ParsedVless.path same),
        (textParam_eq_iff link (by decide)).mp (congrArg ParsedVless.hostHeader same),
        (textParam_eq_iff link (by decide)).mp (congrArg ParsedVless.serviceName same)⟩
  · rintro ⟨port, params⟩
    have hostPort := (parseHostPort_iff link).mpr port
    have value {key : String} (isKey : key ∈ vlessKeys) :=
      (textParam_eq_iff link isKey).mpr (params key isKey)
    have alpn := (alpn_eq_iff link).mpr (params "alpn" (by decide))
    have isHost := congrArg Prod.fst hostPort
    have isPort := congrArg Prod.snd hostPort
    dsimp only at isHost isPort
    rw [isHost, isPort]
    unfold vlessOf
    simp only [ParsedVless.mk.injEq, true_and]
    exact ⟨value (by decide), value (by decide), alpn, value (by decide), value (by decide),
      value (by decide), value (by decide), value (by decide), value (by decide),
      value (by decide), value (by decide)⟩

end Link

/-! ## Links that are misread -/

/-- `vless://a@[2001:db8::1]` -/
def ipv6Link : VlessLink where
  uuid := "a"
  uuidGiven := by decide
  uuidChars := List.all_eq_true.mp (by decide)
  host := .ipv6 "2001:db8::1" (by decide) (List.all_eq_true.mp (by decide))
  port := none
  slash := false
  query := none
  fragment := none

def sniKey : Encoded isKeyChar :=
  [.plain 's' (by decide), .plain 'n' (by decide), .plain 'i' (by decide)]

/-- The letter zhe. -/
def zheParam : VlessParam where
  key := sniKey
  given := List.cons_ne_nil _ _
  value := [.escaped (Char.ofNat 0x436) fun _ => true]

/-- `vless://a@b?sni=%D0%B6` -/
def zheLink : VlessLink where
  uuid := "a"
  uuidGiven := by decide
  uuidChars := List.all_eq_true.mp (by decide)
  host := .name "b" (by decide) (List.all_eq_true.mp (by decide))
  port := none
  slash := false
  query := some [zheParam]
  fragment := none

example : decode "%D0%B6" = String.ofList [Char.ofNat 0xd0, Char.ofNat 0xb6] := by decide

/-- An address without a port loses its end, and a letter of two bytes becomes two characters. -/
theorem vless_links_misread :
    (¬ ∀ link : VlessLink, link.params = [] → parseVlessLink link.text = link.meant) ∧
    ¬ ∀ link : VlessLink, link.host.isIpv6 = false → parseVlessLink link.text = link.meant := by
  constructor
  · intro claimed
    have same := claimed ipv6Link rfl
    rw [parseVlessLink_text] at same
    exact parseHostPort_of_ipv6 ipv6Link rfl rfl (congrArg ParsedVless.host same)
  · intro claimed
    have same := claimed zheLink rfl
    rw [parseVlessLink_text] at same
    have isSni : "sni" ∈ vlessKeys := by decide
    have isLast : zheLink.lastParam "sni" = some zheParam := rfl
    have simple := (textParam_eq_iff zheLink isSni).mp (congrArg ParsedVless.sni same) zheParam
      isLast _ (List.mem_singleton_self _)
    exact absurd simple (by decide : ¬ (Char.ofNat 0x436).toNat < 128)

end VkTurn.Frontend
